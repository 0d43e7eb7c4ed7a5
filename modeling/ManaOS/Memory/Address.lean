/-
Typed memory addresses (`memory/address.rs`, `memory/user_layout.rs`).

Raw addresses are naturals read as `u64`; the typed wrappers carry what their constructors check.

* `PhysicalFrameRange`, `UserVirtualRange`: ranges that fit their address space;
* `UserPageStart.checkedAdd_eq_some`: when the next page exists.
-/
import ManaOS.Lib.Checked

namespace ManaOS
open Checked

/-- `PAGE_SIZE` / `FRAME_SIZE`: 4 KiB. -/
def pageSize : ℕ := 4096

def kernelDynamicMappingStart : ℕ := 0xffff_8000_0000_0000

/-- `USER_SPACE_END`, the ceiling of the user half. -/
def userSpaceEnd : ℕ := 0x0000_8000_0000_0000

/-- `USER_PROGRAM_BASE`, the link base of user executables. -/
def userProgramBase : ℕ := 0x0000_4000_0000_0000

/-- `USER_HEAP_END`, the exclusive bound of the `brk` heap. -/
def userHeapEnd : ℕ := 0x0000_6000_0000_0000

/-- `USER_MAPPING_BASE`, the start of the private mapping region. -/
def userMappingBase : ℕ := userHeapEnd

/-- `USER_MAPPING_END`, the exclusive end of the private mapping region. -/
def userMappingEnd : ℕ := 0x0000_7000_0000_0000

/-- `USER_STACK_REGION_BASE`, the start of the fixed stack slots. -/
def userStackRegionBase : ℕ := 0x0000_7fff_f000_0000

def userStackSlotBytes : ℕ := 0x0010_0000

lemma userProgramBase_ne_zero : userProgramBase ≠ 0 := by decide

lemma userProgramBase_lt_end : userProgramBase < userSpaceEnd := by decide

lemma userProgramBase_aligned : userProgramBase % pageSize = 0 := by decide

lemma one_le_maxPageCount : 1 ≤ wordMax / pageSize := by decide

/-! ### Physical frames -/

/-- A nonzero count of 4 KiB physical frames. -/
structure FrameCount where
  asU64 : ℕ
  pos : 0 < asU64
  le : asU64 ≤ wordMax / pageSize
  deriving DecidableEq

namespace FrameCount

def new (count : ℕ) : Option FrameCount :=
  if h : count = 0 ∨ wordMax / pageSize < count then none
  else some ⟨count, by omega, by omega⟩

/-- `FrameCount::byte_len`; the bound of the structure keeps it in a word. -/
def byteLen (count : FrameCount) : ℕ := count.asU64 * pageSize

def one : FrameCount := ⟨1, by decide, by decide⟩

lemma new_one : new 1 = some one := rfl

end FrameCount

/-- A 4 KiB-aligned physical frame start. -/
structure PhysicalFrameStart where
  asAddress : ℕ
  aligned : asAddress % pageSize = 0
  deriving DecidableEq

namespace PhysicalFrameStart

def new (address : ℕ) : Option PhysicalFrameStart :=
  if h : address % pageSize = 0 then some ⟨address, h⟩ else none

lemma new_eq_some (h : address % pageSize = 0) : new address = some ⟨address, h⟩ := by
  rw [new, dif_pos h]

lemma eq_of_address {a b : PhysicalFrameStart} (h : a.asAddress = b.asAddress) : a = b := by
  cases a
  cases b
  cases h
  rfl

lemma div_mul (frame : PhysicalFrameStart) : frame.asAddress / pageSize * pageSize =
  frame.asAddress := Nat.div_mul_cancel (Nat.dvd_of_mod_eq_zero frame.aligned)

end PhysicalFrameStart

/-- A contiguous range of physical frames whose end fits a word. -/
structure PhysicalFrameRange where
  start : PhysicalFrameStart
  frameCount : FrameCount
  fits : start.asAddress + frameCount.byteLen < wordSize
  deriving DecidableEq

namespace PhysicalFrameRange

def new (start : PhysicalFrameStart) (frameCount : FrameCount) : Option PhysicalFrameRange :=
  if h : start.asAddress + frameCount.byteLen < wordSize then some ⟨start, frameCount, h⟩
  else none

lemma new_eq_some {start : PhysicalFrameStart} {frameCount : FrameCount}
  (h : start.asAddress + frameCount.byteLen < wordSize) :
  new start frameCount = some ⟨start, frameCount, h⟩ := by
  rw [new, dif_pos h]

def firstFrame (range : PhysicalFrameRange) : ℕ := range.start.asAddress / pageSize

/-- The range contains the frame number. -/
def Covers (range : PhysicalFrameRange) (frame : ℕ) : Prop :=
  range.firstFrame ≤ frame ∧ frame < range.firstFrame + range.frameCount.asU64

instance (range : PhysicalFrameRange) (frame : ℕ) : Decidable (range.Covers frame) :=
  inferInstanceAs (Decidable (_ ∧ _))

lemma start_eq (range : PhysicalFrameRange) :
  range.start.asAddress = range.firstFrame * pageSize := by
  have h := range.start.aligned
  simp only [firstFrame, pageSize] at *
  omega

end PhysicalFrameRange

/-! ### Kernel pages -/

/-- A nonzero count of 4 KiB virtual pages. -/
structure PageCount where
  asU64 : ℕ
  pos : 0 < asU64
  le : asU64 ≤ wordMax / pageSize
  deriving DecidableEq

namespace PageCount

def new (count : ℕ) : Option PageCount :=
  if h : count = 0 ∨ wordMax / pageSize < count then none
  else some ⟨count, by omega, by omega⟩

def byteLen (count : PageCount) : ℕ := count.asU64 * pageSize

end PageCount

/-- A 4 KiB-aligned page start in the kernel half. -/
structure KernelPageStart where
  asU64 : ℕ
  aligned : asU64 % pageSize = 0
  kernelHalf : kernelDynamicMappingStart ≤ asU64
  deriving DecidableEq

namespace KernelPageStart

def new (address : ℕ) : Option KernelPageStart :=
  if h : address % pageSize = 0 ∧ kernelDynamicMappingStart ≤ address then
    some ⟨address, h.1, h.2⟩
  else none

def checkedAdd (start : KernelPageStart) (offset : ℕ) : Option KernelPageStart :=
  (Checked.checkedAdd start.asU64 offset).bind new

end KernelPageStart

/-- A reserved kernel virtual range whose end fits a word. -/
structure KernelVirtualRange where
  start : KernelPageStart
  pageCount : PageCount
  fits : start.asU64 + pageCount.byteLen < wordSize
  deriving DecidableEq

namespace KernelVirtualRange

def new (start : KernelPageStart) (pageCount : PageCount) : Option KernelVirtualRange :=
  if h : start.asU64 + pageCount.byteLen < wordSize then some ⟨start, pageCount, h⟩ else none

/-- `KernelVirtualRange::end_exclusive`; the bound of the structure excludes its panic. -/
def endExclusive (range : KernelVirtualRange) : ℕ := range.start.asU64 + range.pageCount.byteLen

end KernelVirtualRange

/-! ### User addresses -/

/-- A non-null virtual address in the user half. -/
structure UserVirtualAddress where
  asU64 : ℕ
  ne_zero : asU64 ≠ 0
  lt_end : asU64 < userSpaceEnd
  deriving DecidableEq

structure UserPageStart where
  asAddress : UserVirtualAddress
  aligned : asAddress.asU64 % pageSize = 0
  deriving DecidableEq

namespace UserPageStart

def new (address : UserVirtualAddress) : Option UserPageStart :=
  if h : address.asU64 % pageSize = 0 then some ⟨address, h⟩ else none

lemma new_eq_some : new address = some page ↔ page.asAddress = address := by
  rw [new]
  constructor
  · intro h
    split at h <;> cases h
    rfl
  · rintro rfl
    exact dif_pos page.aligned

def asU64 (page : UserPageStart) : ℕ := page.asAddress.asU64

end UserPageStart

namespace UserVirtualAddress

def new (address : ℕ) : Option UserVirtualAddress :=
  if h : address ≠ 0 ∧ address < userSpaceEnd then some ⟨address, h.1, h.2⟩ else none

lemma new_eq_some : new address = some user ↔ user.asU64 = address := by
  rw [new]
  constructor
  · intro h
    split at h <;> cases h
    rfl
  · rintro rfl
    exact dif_pos ⟨user.ne_zero, user.lt_end⟩

def checkedAdd (address : UserVirtualAddress) (offset : ℕ) : Option UserVirtualAddress :=
  (Checked.checkedAdd address.asU64 offset).bind new

def checkedSub (address : UserVirtualAddress) (offset : ℕ) : Option UserVirtualAddress :=
  (Checked.checkedSub address.asU64 offset).bind new

def alignDownToPage (address : UserVirtualAddress) : Option UserPageStart :=
  (new (alignDown address.asU64 pageSize)).bind UserPageStart.new

def alignUpToPage (address : UserVirtualAddress) : Option UserPageStart :=
  (Checked.checkedAdd address.asU64 (pageSize - 1)).bind fun raised =>
    (new (alignDown raised pageSize)).bind UserPageStart.new

end UserVirtualAddress

namespace UserPageStart

def checkedAdd (page : UserPageStart) (offset : ℕ) : Option UserPageStart :=
  (page.asAddress.checkedAdd offset).bind new

lemma exists_asU64 (hne : address ≠ 0) (hlt : address < userSpaceEnd)
  (halign : address % pageSize = 0) : ∃ page : UserPageStart, page.asU64 = address :=
  ⟨⟨⟨address, hne, hlt⟩, halign⟩, rfl⟩

lemma eq_of_asU64 {p q : UserPageStart} (h : p.asU64 = q.asU64) : p = q := by
  obtain ⟨⟨a, _, _⟩, _⟩ := p
  obtain ⟨⟨b, _, _⟩, _⟩ := q
  obtain rfl : a = b := h
  rfl

lemma checkedAdd_eq_some {page : UserPageStart} :
  page.checkedAdd offset = some p ↔ p.asU64 = page.asU64 + offset := by
  simp only [checkedAdd, UserVirtualAddress.checkedAdd, Option.bind_eq_some_iff, new_eq_some,
    UserVirtualAddress.new_eq_some, Checked.checkedAdd_eq_some]
  constructor
  · rintro ⟨_, ⟨_, ⟨-, hsum⟩, rfl⟩, rfl⟩
    exact hsum
  intro h
  have hlt := p.asAddress.lt_end
  have hsum : page.asU64 + offset < wordSize := by
    rw [← h, wordSize_eq]
    rw [userSpaceEnd] at hlt
    exact Nat.lt_trans hlt (by decide)
  exact ⟨p.asAddress, ⟨_, ⟨hsum, rfl⟩, h⟩, rfl⟩

lemma asU64_mod (page : UserPageStart) : page.asU64 % pageSize = 0 := page.aligned

lemma asU64_lt (page : UserPageStart) : page.asU64 < userSpaceEnd := page.asAddress.lt_end

lemma exists_checkedAdd {page : UserPageStart}
  (h : page.asU64 + pageSize < userSpaceEnd) : ∃ next, page.checkedAdd pageSize = some next := by
  obtain ⟨next, hnext⟩ := exists_asU64 (Nat.ne_of_gt (Nat.lt_of_lt_of_le (by decide)
    (Nat.le_add_left pageSize page.asU64))) h (by rw [Nat.add_mod_right]; exact page.aligned)
  exact ⟨next, checkedAdd_eq_some.2 hnext⟩

def checkedSub (page : UserPageStart) (offset : ℕ) : Option UserPageStart :=
  (page.asAddress.checkedSub offset).bind new

lemma checkedSub_eq {page : UserPageStart} (h : page.asU64 = p.asU64 + offset) :
  page.checkedSub offset = some p := by
  simp only [checkedSub, UserVirtualAddress.checkedSub, Option.bind_eq_some_iff, new_eq_some,
    UserVirtualAddress.new_eq_some, Checked.checkedSub_eq_some]
  exact ⟨p.asAddress, ⟨_, ⟨by change offset ≤ page.asU64; omega, rfl⟩,
    by change p.asU64 = page.asU64 - offset; omega⟩, rfl⟩

end UserPageStart

/-- A nonempty byte range inside the user half. -/
structure UserVirtualRange where
  start : UserVirtualAddress
  byteLen : ℕ
  pos : 0 < byteLen
  le_end : start.asU64 + byteLen ≤ userSpaceEnd
  deriving DecidableEq

namespace UserVirtualRange

/-- `UserVirtualRange::new`; an end beyond `u64` is beyond the user half as well. -/
def new (start : UserVirtualAddress) (byteLen : ℕ) : Option UserVirtualRange :=
  if h : 0 < byteLen ∧ start.asU64 + byteLen ≤ userSpaceEnd then some ⟨start, byteLen, h.1, h.2⟩
  else none

def fromSyscallArguments (userPointer byteLen : ℕ) : Option UserVirtualRange :=
  (UserVirtualAddress.new userPointer).bind fun start => new start byteLen

def endExclusive (range : UserVirtualRange) : ℕ := range.start.asU64 + range.byteLen

def firstPageStart (range : UserVirtualRange) : Option UserPageStart := range.start.alignDownToPage

def lastPageStart (range : UserVirtualRange) : Option UserPageStart :=
  (Checked.checkedSub range.endExclusive 1).bind fun lastAddress =>
    (UserVirtualAddress.new lastAddress).bind UserVirtualAddress.alignDownToPage

end UserVirtualRange

/-- A user range intended for kernel reads. -/
structure UserReadableRange where
  asRange : UserVirtualRange
  deriving DecidableEq

def UserReadableRange.fromSyscallArguments (userPointer byteLen : ℕ) : Option UserReadableRange :=
  (UserVirtualRange.fromSyscallArguments userPointer byteLen).map UserReadableRange.mk

/-- A readable user range meant to hold a NUL-terminated string. -/
structure UserCString where
  asReadableRange : UserReadableRange
  deriving DecidableEq

def UserCString.fromSyscallArguments (userPointer byteLen : ℕ) : Option UserCString :=
  (UserReadableRange.fromSyscallArguments userPointer byteLen).map UserCString.mk

/-- A user range intended for kernel writes. -/
structure UserWritableRange where
  asRange : UserVirtualRange
  deriving DecidableEq

def UserWritableRange.fromSyscallArguments (userPointer byteLen : ℕ) : Option UserWritableRange :=
  (UserVirtualRange.fromSyscallArguments userPointer byteLen).map UserWritableRange.mk

end ManaOS
