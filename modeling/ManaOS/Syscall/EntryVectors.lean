/-
The argument and environment vectors of a new program, as they are copied from the user.

`copy_user_program_entry_staging` reads the slots of two pointer arrays one after the other, copies
the strings they point to and counts their bytes together.

* `entry_staging_iff` (**vectors**): how the copy ends, and what it has copied.
-/
import ManaOS.Boot
import ManaOS.Memory.UserViews
import ManaOS.Syscall.Process

namespace ManaOS
open Checked UserReadableRange UserVirtualAddress
namespace Kernel

/-- How the copy of a string ends, `copied` bytes into the shared total. -/
inductive StringEnds (view : View) (copied pointer : ℕ) : Except ℕ (List UInt8 × ℕ) → Prop
  | outside (hwindow : userSpaceEnd < pointer + maxUserEntryCopiedStringBytes) :
      StringEnds view copied pointer (.error errorBadAddress)
  | unreadable (hwindow : pointer + maxUserEntryCopiedStringBytes ≤ userSpaceEnd)
      (hstring : view.NoString maxUserEntryCopiedStringBytes pointer) :
      StringEnds view copied pointer (.error errorBadAddress)
  | tooLong {value : List UInt8}
      (hwindow : pointer + maxUserEntryCopiedStringBytes ≤ userSpaceEnd)
      (hstring : view.HasString maxUserEntryCopiedStringBytes pointer value)
      (htotal : maxUserEntryCopiedStringBytes < copied + (value.length + 1)) :
      StringEnds view copied pointer (.error errorArgumentListTooLong)
  | value {value : List UInt8}
      (hwindow : pointer + maxUserEntryCopiedStringBytes ≤ userSpaceEnd)
      (hstring : view.HasString maxUserEntryCopiedStringBytes pointer value)
      (htotal : copied + (value.length + 1) ≤ maxUserEntryCopiedStringBytes) :
      StringEnds view copied pointer (.ok (value, copied + (value.length + 1)))

/-- How the copy of a vector ends from an index on. -/
inductive VectorEnds (view : View) (array limit : ℕ) :
    ℕ → ℕ → Except ℕ (List (List UInt8) × ℕ) → Prop
  | unreadable {index copied : ℕ} (hslot : view.slot (array + index * 8) = none) :
      VectorEnds view array limit index copied (.error errorBadAddress)
  | null {index copied : ℕ} (hslot : view.slot (array + index * 8) = some 0) :
      VectorEnds view array limit index copied (.ok ([], copied))
  | tooMany {index copied pointer : ℕ} (hslot : view.slot (array + index * 8) = some pointer)
      (hpointer : pointer ≠ 0) (hindex : index = limit) :
      VectorEnds view array limit index copied (.error errorArgumentListTooLong)
  | refused {index copied pointer error : ℕ}
      (hslot : view.slot (array + index * 8) = some pointer) (hpointer : pointer ≠ 0)
      (hindex : index < limit) (hstring : StringEnds view copied pointer (.error error)) :
      VectorEnds view array limit index copied (.error error)
  | stopped {index copied pointer copied' error : ℕ} {value : List UInt8}
      (hslot : view.slot (array + index * 8) = some pointer) (hpointer : pointer ≠ 0)
      (hindex : index < limit) (hstring : StringEnds view copied pointer (.ok (value, copied')))
      (hrest : VectorEnds view array limit (index + 1) copied' (.error error)) :
      VectorEnds view array limit index copied (.error error)
  | value {index copied pointer copied' total : ℕ} {value : List UInt8}
      {values : List (List UInt8)} (hslot : view.slot (array + index * 8) = some pointer)
      (hpointer : pointer ≠ 0) (hindex : index < limit)
      (hstring : StringEnds view copied pointer (.ok (value, copied')))
      (hrest : VectorEnds view array limit (index + 1) copied' (.ok (values, total))) :
      VectorEnds view array limit index copied (.ok (value :: values, total))

/-- How the copy of a vector ends: a null array is an empty one. -/
inductive ArrayEnds (view : View) (array copied : ℕ) : Except ℕ (List (List UInt8) × ℕ) → Prop
  | absent (harray : array = 0) : ArrayEnds view array copied (.ok ([], copied))
  | present {result : Except ℕ (List (List UInt8) × ℕ)} (harray : array ≠ 0)
      (hends : VectorEnds view array maxUserEntryValueCount 0 copied result) :
      ArrayEnds view array copied result

/-- How the copy of both vectors ends. -/
inductive StagingEnds (view : View) (path : Path) (arguments environment : ℕ) :
    Except ℕ UserProgramEntryStaging → Prop
  | argumentsRefused {error : ℕ} (harguments : ArrayEnds view arguments 0 (.error error)) :
      StagingEnds view path arguments environment (.error error)
  | environmentRefused {argumentValues : List (List UInt8)} {copied error : ℕ}
      (harguments : ArrayEnds view arguments 0 (.ok (argumentValues, copied)))
      (henvironment : ArrayEnds view environment copied (.error error)) :
      StagingEnds view path arguments environment (.error error)
  | staged {argumentValues environmentValues : List (List UInt8)} {copied total : ℕ}
      (harguments : ArrayEnds view arguments 0 (.ok (argumentValues, copied)))
      (henvironment : ArrayEnds view environment copied (.ok (environmentValues, total))) :
      StagingEnds view path arguments environment (.ok ⟨path, argumentValues, environmentValues⟩)

section Unique
variable {view : View} {copied array limit index : ℕ}

lemma StringEnds.unique (h : StringEnds view copied pointer result)
    (h' : StringEnds view copied pointer result') : result = result' := by
  cases h with
  | outside hwin =>
    cases h' with
    | outside _ => rfl
    | unreadable hwin' _ => omega
    | tooLong hwin' _ _ => omega
    | value hwin' _ _ => omega
  | unreadable hwin hno =>
    cases h' with
    | outside _ => rfl
    | unreadable _ _ => rfl
    | tooLong _ hstr _ => exact absurd hno hstr.not_noString
    | value _ hstr _ => exact absurd hno hstr.not_noString
  | tooLong hwin hstr htotal =>
    cases h' with
    | outside hwin' => omega
    | unreadable _ hno => exact absurd hno hstr.not_noString
    | tooLong _ _ _ => rfl
    | value _ hstr' htotal' =>
      obtain rfl := hstr.unique hstr'
      omega
  | value _ hstr _ =>
    cases h' with
    | outside _ => omega
    | unreadable _ hno => exact absurd hno hstr.not_noString
    | tooLong _ hstr' _ =>
      obtain rfl := hstr.unique hstr'
      omega
    | value _ hstr' _ => rw [hstr.unique hstr']

end Unique

/-! ### The code -/

section Errors
variable {ε α β : Type}

lemma okOr_some (a : α) (error : ε) : okOr (some a) error = .ok a := rfl

lemma bind_of_ok (a : α) (f : α → Except ε β) : (Except.ok a >>= f) = f a := rfl

end Errors

section Code
variable (mapper : PageMapper) (kernel : Kernel)

lemma copyUserEntryPointerArraySlot_eq (array : ℕ) (hindex : index ≤ maxUserEntryValueCount) :
  kernel.copyUserEntryPointerArraySlot mapper array index =
    okOr ((kernel.memory.userView mapper).slot (array + index * 8)) errorBadAddress := by
  have hmul : checkedMul index 8 = some (index * 8) := by
    rw [maxUserEntryValueCount] at hindex
    exact checkedMul_eq_some.2 ⟨Nat.lt_of_le_of_lt (Nat.mul_le_mul_right 8 hindex) (by decide), rfl⟩
  rw [copyUserEntryPointerArraySlot, hmul, slot_userView]
  cases hadd : checkedAdd array (index * 8) with
  | none =>
    have hword : wordSize ≤ array + index * 8 := by
      by_contra hlt
      rw [checkedAdd_eq_some.2 ⟨Nat.not_le.1 hlt, rfl⟩] at hadd
      cases hadd
    have hnone : new (array + index * 8) = none :=
      dif_neg fun h => absurd (Nat.lt_of_le_of_lt hword h.2) (by decide)
    rw [fromSyscallArguments, UserVirtualRange.fromSyscallArguments, hnone,
      okOr_some, bind_of_ok, hadd]
    rfl
  | some _ =>
    obtain ⟨-, rfl⟩ := checkedAdd_eq_some.1 hadd
    have hbuf : kernel.copyInputBuffer mapper (array + index * 8) 8 =
      (fromSyscallArguments (array + index * 8) 8).bind
        (copyFromUser mapper kernel.memory) := if_neg (by decide)
    rw [okOr_some, bind_of_ok, hadd, okOr_some, bind_of_ok, hbuf]
    cases (fromSyscallArguments (array + index * 8) 8).bind
      (copyFromUser mapper kernel.memory) <;> rfl

lemma copyUserEntryStringValue_ends (hptr : pointer ≠ 0) (copied : ℕ) :
    StringEnds (kernel.memory.userView mapper) copied pointer
      (kernel.copyUserEntryStringValue mapper pointer copied) := by
  rw [copyUserEntryStringValue]
  by_cases hwin : pointer + maxUserEntryCopiedStringBytes ≤ userSpaceEnd
  · have hlt : pointer < userSpaceEnd :=
      Nat.lt_of_lt_of_le (Nat.lt_add_of_pos_right (by decide)) hwin
    obtain ⟨start, rfl⟩ : ∃ start : UserVirtualAddress, start.asU64 = pointer :=
      ⟨⟨pointer, hptr, hlt⟩, rfl⟩
    have hstr : UserCString.fromSyscallArguments start.asU64 maxUserEntryCopiedStringBytes =
      some ⟨⟨⟨start, maxUserEntryCopiedStringBytes, by decide, hwin⟩⟩⟩ := by
      rw [UserCString.fromSyscallArguments, fromSyscallArguments,
        UserVirtualRange.fromSyscallArguments, new_eq_some.2 rfl,
        Option.bind_some, UserVirtualRange.new, dif_pos ⟨by decide, hwin⟩]
      rfl
    rw [hstr, okOr_some, bind_of_ok, copyCstrBytesFromUser]
    dsimp only
    have hspec := @copyCstrFrom_spec mapper kernel.memory start maxUserEntryCopiedStringBytes 0
      hwin
    rw [Nat.add_zero] at hspec
    rcases hspec with ⟨value, hval, hhas⟩ | ⟨hnone, hno⟩
    · have hlen : value.length + 1 < wordSize :=
        Nat.lt_of_le_of_lt hhas.length_lt (by decide)
      rw [hval, okOr_some, bind_of_ok, checkedAdd_eq_some.2 ⟨hlen, rfl⟩, Option.bind_some]
      by_cases htotal : copied + (value.length + 1) ≤ maxUserEntryCopiedStringBytes
      · rw [checkedAdd_eq_some.2 ⟨Nat.lt_of_le_of_lt htotal (by decide), rfl⟩, okOr_some,
          bind_of_ok,
          if_neg (Nat.not_lt.2 htotal)]
        exact .value hwin hhas htotal
      rw [Nat.not_le] at htotal
      cases hadd : checkedAdd copied (value.length + 1) with
      | none => exact .tooLong hwin hhas htotal
      | some _ =>
        obtain ⟨-, rfl⟩ := checkedAdd_eq_some.1 hadd
        rw [okOr_some, bind_of_ok, if_pos htotal]
        exact .tooLong hwin hhas htotal
    · rw [hnone]
      exact .unreadable hwin hno
  · have hnone : UserCString.fromSyscallArguments pointer maxUserEntryCopiedStringBytes = none := by
      rw [UserCString.fromSyscallArguments, fromSyscallArguments,
        UserVirtualRange.fromSyscallArguments]
      cases hst : new pointer with
      | none => rfl
      | some _ =>
        have hval := new_eq_some.1 hst
        rw [Option.bind_some, UserVirtualRange.new, dif_neg fun h => hwin (hval ▸ h.2)]
        rfl
    rw [hnone]
    exact .outside (Nat.not_le.1 hwin)

variable (array : ℕ) {index : ℕ} (hindex : index ≤ maxUserEntryValueCount) {copied : ℕ}
include hindex in
lemma copyUserEntryStringsFrom_none
    (hslot : (kernel.memory.userView mapper).slot (array + index * 8) = none) :
    kernel.copyUserEntryStringsFrom mapper array remaining index copied =
      .error errorBadAddress := by
  rw [copyUserEntryStringsFrom, kernel.copyUserEntryPointerArraySlot_eq mapper array hindex, hslot]
  rfl

include hindex in
lemma copyUserEntryStringsFrom_null
    (hslot : (kernel.memory.userView mapper).slot (array + index * 8) = some 0) :
    kernel.copyUserEntryStringsFrom mapper array remaining index copied = .ok ([], copied) := by
  rw [copyUserEntryStringsFrom, kernel.copyUserEntryPointerArraySlot_eq mapper array hindex, hslot]
  rfl

include hindex in
lemma copyUserEntryStringsFrom_last (hptr : pointer ≠ 0)
  (hslot : (kernel.memory.userView mapper).slot (array + index * 8) = some pointer) :
  kernel.copyUserEntryStringsFrom mapper array 0 index copied =
    .error errorArgumentListTooLong := by
  rw [copyUserEntryStringsFrom, kernel.copyUserEntryPointerArraySlot_eq mapper array hindex, hslot,
    okOr_some, bind_of_ok, if_neg hptr]
  rfl

include hindex in
lemma copyUserEntryStringsFrom_string (hptr : pointer ≠ 0)
    (hslot : (kernel.memory.userView mapper).slot (array + index * 8) = some pointer) :
    kernel.copyUserEntryStringsFrom mapper array (remaining + 1) index copied =
      (kernel.copyUserEntryStringValue mapper pointer copied).bind fun p =>
        (kernel.copyUserEntryStringsFrom mapper array remaining (index + 1) p.2).map fun q =>
        (p.1 :: q.1, q.2) := by
  rw [copyUserEntryStringsFrom, kernel.copyUserEntryPointerArraySlot_eq mapper array hindex, hslot,
    okOr_some, bind_of_ok, if_neg hptr]
  cases kernel.copyUserEntryStringValue mapper pointer copied with
  | error _ => rfl
  | ok p =>
    change (kernel.copyUserEntryStringsFrom mapper array remaining (index + 1) p.2 >>= _) =
      (kernel.copyUserEntryStringsFrom mapper array remaining (index + 1) p.2).map _
    cases kernel.copyUserEntryStringsFrom mapper array remaining (index + 1) p.2 <;> rfl

lemma copyUserEntryStringsFrom_ends (remaining index copied : ℕ)
    (hlimit : index + remaining = maxUserEntryValueCount) :
    VectorEnds (kernel.memory.userView mapper) array maxUserEntryValueCount index copied
      (kernel.copyUserEntryStringsFrom mapper array remaining index copied) := by
  induction remaining generalizing index copied with
  | zero =>
    have hindex : index ≤ maxUserEntryValueCount := hlimit.le
    cases hslot : (kernel.memory.userView mapper).slot (array + index * 8) with
    | none =>
      rw [copyUserEntryStringsFrom_none mapper kernel array hindex hslot]
      exact .unreadable hslot
    | some pointer =>
      by_cases hptr : pointer = 0
      · subst hptr
        rw [copyUserEntryStringsFrom_null mapper kernel array hindex hslot]
        exact .null hslot
      · rw [copyUserEntryStringsFrom_last mapper kernel array hindex hptr hslot]
        exact .tooMany hslot hptr hlimit
  | succ remaining ih =>
    have hindex : index ≤ maxUserEntryValueCount := by omega
    have hlt : index < maxUserEntryValueCount := by omega
    cases hslot : (kernel.memory.userView mapper).slot (array + index * 8) with
    | none =>
      rw [copyUserEntryStringsFrom_none mapper kernel array hindex hslot]
      exact .unreadable hslot
    | some pointer =>
      by_cases hptr : pointer = 0
      · subst hptr
        rw [copyUserEntryStringsFrom_null mapper kernel array hindex hslot]
        exact .null hslot
      rw [copyUserEntryStringsFrom_string mapper kernel array hindex hptr hslot]
      have hstr := kernel.copyUserEntryStringValue_ends mapper hptr copied
      cases hval : kernel.copyUserEntryStringValue mapper pointer copied with
      | error _ =>
        rw [hval] at hstr
        exact .refused hslot hptr hlt hstr
      | ok p =>
        rw [hval] at hstr
        have hrest := ih (index + 1) p.2 (by omega)
        change VectorEnds _ _ _ _ _ ((kernel.copyUserEntryStringsFrom mapper array remaining
          (index + 1) p.2).map _)
        cases hvalues : kernel.copyUserEntryStringsFrom mapper array remaining (index + 1)
            p.2 with
        | error _ =>
          rw [hvalues] at hrest
          exact .stopped hslot hptr hlt hstr hrest
        | ok q =>
          rw [hvalues] at hrest
          exact .value hslot hptr hlt hstr hrest

lemma VectorEnds.eq_code
    (h :
      VectorEnds (kernel.memory.userView mapper) array maxUserEntryValueCount index copied result)
    (hlimit : index + remaining = maxUserEntryValueCount) :
    kernel.copyUserEntryStringsFrom mapper array remaining index copied = result := by
  induction h generalizing remaining with
  | unreadable hslot => exact copyUserEntryStringsFrom_none mapper kernel array (by omega) hslot
  | null hslot => exact copyUserEntryStringsFrom_null mapper kernel array (by omega) hslot
  | tooMany hslot hptr hindex =>
    obtain rfl : remaining = 0 := by omega
    exact copyUserEntryStringsFrom_last mapper kernel array hindex.le hptr hslot
  | refused hslot hptr hindex hstr =>
    obtain ⟨rest, rfl⟩ : ∃ rest, remaining = rest + 1 := ⟨remaining - 1, by omega⟩
    have hval := (kernel.copyUserEntryStringValue_ends mapper hptr _).unique hstr
    rw [copyUserEntryStringsFrom_string mapper kernel array hindex.le hptr hslot, hval]
    rfl
  | stopped hslot hptr hindex hstr _ ih =>
    obtain ⟨rest, rfl⟩ : ∃ rest, remaining = rest + 1 := ⟨remaining - 1, by omega⟩
    have hval := (kernel.copyUserEntryStringValue_ends mapper hptr _).unique hstr
    rw [copyUserEntryStringsFrom_string mapper kernel array hindex.le hptr hslot, hval,
      Except.bind, ih (by omega)]
    rfl
  | value hslot hptr hindex hstr _ ih =>
    obtain ⟨rest, rfl⟩ : ∃ rest, remaining = rest + 1 := ⟨remaining - 1, by omega⟩
    have hval := (kernel.copyUserEntryStringValue_ends mapper hptr _).unique hstr
    rw [copyUserEntryStringsFrom_string mapper kernel array hindex.le hptr hslot, hval,
      Except.bind, ih (by omega)]
    rfl

lemma copyUserEntryStringVector_iff {copied : ℕ} {result : Except ℕ (List (List UInt8) × ℕ)} :
  kernel.copyUserEntryStringVector mapper array maxUserEntryValueCount copied = result ↔
    ArrayEnds (kernel.memory.userView mapper) array copied result := by
  rw [copyUserEntryStringVector]
  split_ifs with harray
  · constructor
    · rintro rfl
      exact .absent harray
    intro h
    cases h with
    | absent _ => rfl
    | present hne _ => exact absurd harray hne
  constructor
  · rintro rfl
    exact .present harray (kernel.copyUserEntryStringsFrom_ends mapper array _ 0 copied
      (Nat.zero_add _))
  intro h
  cases h with
  | absent hzero => exact absurd hzero harray
  | present _ hends => exact hends.eq_code mapper kernel array (Nat.zero_add _)

lemma copyUserProgramEntryStaging_iff {pathPointer arguments environment : ℕ}
  {path resolved : Path} (hpath : kernel.copyPathArgument mapper pathPointer = some path)
  (hresolved : kernel.resolveCurrentProcessPath path = .ok resolved)
  {result : Except ℕ UserProgramEntryStaging} :
  kernel.copyUserProgramEntryStaging mapper pathPointer arguments environment = .ok result ↔
    StagingEnds (kernel.memory.userView mapper) resolved arguments environment result := by
  rw [copyUserProgramEntryStaging, hpath]
  dsimp only
  rw [hresolved, ok_bind, pure_eq, Except.ok.injEq]
  have hvec := fun array copied result =>
    @copyUserEntryStringVector_iff mapper kernel array copied result
  constructor
  · rintro rfl
    cases hargs : kernel.copyUserEntryStringVector mapper arguments maxUserEntryValueCount 0
      with
    | error _ => exact .argumentsRefused ((hvec _ _ _).1 hargs)
    | ok p =>
      obtain ⟨_, copied⟩ := p
      rw [bind_of_ok]
      dsimp only
      cases henv : kernel.copyUserEntryStringVector mapper environment
          maxUserEntryValueCount copied with
      | error _ =>
        exact .environmentRefused ((hvec _ _ _).1 hargs)
          ((hvec _ _ _).1 henv)
      | ok q => exact .staged ((hvec _ _ _).1 hargs) ((hvec _ _ _).1 henv)
  intro h
  cases h with
  | argumentsRefused hargs =>
    rw [(hvec _ _ _).2 hargs]
    rfl
  | environmentRefused hargs henv =>
    rw [(hvec _ _ _).2 hargs, bind_of_ok]
    dsimp only
    rw [(hvec _ _ _).2 henv]
    rfl
  | staged hargs henv =>
    rw [(hvec _ _ _).2 hargs, bind_of_ok]
    dsimp only
    rw [(hvec _ _ _).2 henv]
    rfl

end Code

/-! ### What a copy has read -/

section Reads
variable {view view' : View} {array limit index copied total : ℕ} {values : List (List UInt8)}

/-- The slots from an index on lead to the values, and end with null. -/
structure SlotsHold (view : View) (array index : ℕ) (values : List (List UInt8)) : Prop where
  value : ∀ i value, values[i]? = some value → ∃ pointer, pointer ≠ 0 ∧ view.slot (array +
    (index + i) * 8) = some pointer ∧ view.HasString maxUserEntryCopiedStringBytes pointer value
  null : view.slot (array + (index + values.length) * 8) = some 0

/-- The addresses of the slots up to the null one, and of the strings with their NUL. -/
def slotReads (view : View) (array index : ℕ) (values : List (List UInt8)) : Set ℕ :=
  {address | (∃ i ≤ values.length, array + (index + i) * 8 ≤ address ∧ address <
  array + (index + i) * 8 + 8) ∨ ∃ i value pointer, values[i]? = some value ∧ view.slot
  (array + (index + i) * 8) = some pointer ∧ pointer ≤ address ∧ address ≤ pointer + value.length}

lemma VectorEnds.slotsHold (h : VectorEnds view array limit index copied (.ok (values, total))) :
  SlotsHold view array index values := by
  generalize hres : Except.ok (values, total) = result at h
  induction h generalizing values with
  | unreadable _ => cases hres
  | null hslot =>
    cases hres
    exact ⟨fun i value hval => (by cases hval), hslot⟩
  | tooMany _ _ _ => cases hres
  | refused _ _ _ _ => cases hres
  | stopped _ _ _ _ _ _ => cases hres
  | value hslot hptr _ hstr _ ih =>
    cases hres
    obtain ⟨hvalues, hnull⟩ := ih rfl
    cases hstr with
    | value _ hhas _ =>
      refine ⟨fun i value hval => ?_, ?_⟩
      · cases i with
        | zero =>
          cases hval
          exact ⟨_, hptr, hslot, hhas⟩
        | succ i =>
          rw [← Nat.add_assoc, Nat.add_right_comm]
          exact hvalues i value hval
      · rw [List.length_cons, ← Nat.add_assoc, Nat.add_right_comm]
        exact hnull

lemma slotReads_subset (value : List UInt8) :
  slotReads view array (index + 1) values ⊆ slotReads view array index (value :: values) := by
  have hindex : ∀ i, index + 1 + i = index + (i + 1) := fun i => by omega
  rintro _ (⟨i, hi, hlow, hhigh⟩ | ⟨i, string, pointer, hstr, hslot, hlow, hhigh⟩)
  · rw [hindex] at hlow hhigh
    exact .inl ⟨i + 1, Nat.succ_le_succ hi, hlow, hhigh⟩
  · rw [hindex] at hslot
    exact .inr ⟨i + 1, string, pointer, hstr, hslot, hlow, hhigh⟩

lemma slot_eq_of_agree
    (hagree : ∀ address ∈ slotReads view array index values, view' address = view address) :
    view'.slot (array + index * 8) = view.slot (array + index * 8) :=
  View.slot_congr fun _ hi =>
    hagree _ (.inl ⟨0, Nat.zero_le _, Nat.le_add_right _ _, Nat.add_lt_add_left hi _⟩)

lemma VectorEnds.congr (h : VectorEnds view array limit index copied (.ok (values, total)))
  (hagree : ∀ address ∈ slotReads view array index values, view' address = view address) :
  VectorEnds view' array limit index copied (.ok (values, total)) := by
  generalize hres : Except.ok (values, total) = result at h ⊢
  induction h generalizing values with
  | unreadable _ => cases hres
  | null hslot => exact .null ((slot_eq_of_agree hagree).trans hslot)
  | tooMany _ _ _ => cases hres
  | refused _ _ _ _ => cases hres
  | stopped _ _ _ _ _ _ => cases hres
  | @value _ _ pointer _ _ value _ hslot hptr hindex hstr _ ih =>
    cases hres
    refine .value ((slot_eq_of_agree hagree).trans hslot) hptr hindex ?_
      (ih (fun address haddr => hagree address (slotReads_subset value haddr)) rfl)
    cases hstr with
    | value hwin hhas htotal =>
      refine .value hwin (hhas.congr fun i hi => hagree _ (.inr ?_)) htotal
      exact ⟨0, value, pointer, rfl, hslot, Nat.le_add_right _ _, Nat.add_le_add_left hi _⟩

/-- The addresses read for an array: a null array is not looked at. -/
def arrayReads (view : View) (array : ℕ) (values : List (List UInt8)) : Set ℕ :=
  {address | array ≠ 0 ∧ address ∈ slotReads view array 0 values}

lemma ArrayEnds.congr (h : ArrayEnds view array copied (.ok (values, total)))
  (hagree : ∀ address ∈ arrayReads view array values, view' address = view address) :
  ArrayEnds view' array copied (.ok (values, total)) := by
  cases h with
  | absent harray => exact .absent harray
  | present harray hends =>
    exact .present harray (hends.congr fun address haddr => hagree address ⟨harray, haddr⟩)

/-- The vector of an array: nothing for a null array, else what its slots lead to. -/
def ArrayHolds (view : View) (array : ℕ) (values : List (List UInt8)) : Prop :=
  array = 0 ∧ values = [] ∨ array ≠ 0 ∧ SlotsHold view array 0 values

lemma ArrayEnds.holds (h : ArrayEnds view array copied (.ok (values, total))) :
  ArrayHolds view array values := by
  cases h with
  | absent harray => exact .inl ⟨harray, rfl⟩
  | present harray hends => exact .inr ⟨harray, hends.slotsHold⟩

lemma ArrayHolds.nul_notMem (h : ArrayHolds view array values) : ∀ value ∈ values, 0 ∉ value := by
  intro value hval
  rcases h with ⟨-, rfl⟩ | ⟨-, hslots⟩
  · cases hval
  · obtain ⟨i, hi⟩ := List.getElem?_of_mem hval
    obtain ⟨_, -, -, hhas⟩ := hslots.value i value hi
    exact hhas.nul_notMem

end Reads

/-- **The entry vectors.**  On a readable path, the copy ends in the one way that the slots of the
two arrays, taken in order, and the strings they lead to determine.  When it succeeds, the vectors
are the strings before each NUL, and any kernel that reads the same at the addresses of the slots
up to the null ones and of the strings up to their NULs copies the same: nothing else is read. -/
theorem entry_staging_iff (mapper : PageMapper) (kernel : Kernel)
    {pathPointer arguments environment : ℕ} {path resolved : Path}
    (hpath : kernel.copyPathArgument mapper pathPointer = some path)
    (hresolved : kernel.resolveCurrentProcessPath path = .ok resolved) :
    (∃ result,
      kernel.copyUserProgramEntryStaging mapper pathPointer arguments environment = .ok result) ∧
    (∀ result,
      kernel.copyUserProgramEntryStaging mapper pathPointer arguments environment = .ok result ↔
        StagingEnds (kernel.memory.userView mapper) resolved arguments environment result) ∧
    ∀ staging,
      kernel.copyUserProgramEntryStaging mapper pathPointer arguments environment =
        .ok (.ok staging) →
      ArrayHolds (kernel.memory.userView mapper) arguments staging.argumentValues ∧
      ArrayHolds (kernel.memory.userView mapper) environment staging.environmentValues ∧
      (∀ value ∈ staging.argumentValues ++ staging.environmentValues, 0 ∉ value) ∧
      ∀ kernel' : Kernel,
        kernel'.copyPathArgument mapper pathPointer = some path →
        kernel'.resolveCurrentProcessPath path = .ok resolved →
        (∀ address ∈ arrayReads (kernel.memory.userView mapper) arguments staging.argumentValues ∪
           arrayReads (kernel.memory.userView mapper) environment staging.environmentValues,
          kernel'.memory.userView mapper address = kernel.memory.userView mapper address) →
        kernel'.copyUserProgramEntryStaging mapper pathPointer arguments environment =
          .ok (.ok staging) := by
  have hiff := fun result =>
    @copyUserProgramEntryStaging_iff mapper kernel _ arguments environment _ _ hpath hresolved
      result
  refine ⟨?_, hiff, fun staging hstaging => ?_⟩
  · rw [copyUserProgramEntryStaging, hpath]
    dsimp only
    rw [hresolved]
    exact ⟨_, rfl⟩
  cases (hiff _).1 hstaging with
  | staged harguments henvironment =>
    refine ⟨harguments.holds, henvironment.holds, fun value hvalue => ?_,
      fun kernel' hpath' hresolved' hagree => ?_⟩
    · rcases List.mem_append.1 hvalue with hvalue | hvalue
      · exact harguments.holds.nul_notMem value hvalue
      · exact henvironment.holds.nul_notMem value hvalue
    · exact (copyUserProgramEntryStaging_iff mapper kernel' hpath' hresolved').2
        (.staged (harguments.congr fun address haddress => hagree address (.inl haddress))
          (henvironment.congr fun address haddress => hagree address (.inr haddress)))

/-- Every user page holds a slot that leads to the string behind the null slot. -/
def entryMemory : Memory := selfMappedMemory.writeBytes pageSize
    (toBytes 8 (userProgramBase + 16) ++ toBytes 8 0 ++ [104, 105, 0])

/-- The kernel after boot, with that memory. -/
def entryKernel : Kernel := { bootKernel with memory := entryMemory }

/-- One argument and no environment. -/
theorem entry_staging_iff_one_argument :
  ArrayHolds (entryKernel.memory.userView leafMapper) userProgramBase [[104, 105]] ∧
  ∃ staging, entryKernel.copyUserProgramEntryStaging leafMapper (userProgramBase + 8)
      userProgramBase 0 = .ok (.ok staging) ∧ staging.argumentValues = [[104, 105]] := by
  have hpath : entryKernel.copyPathArgument leafMapper (userProgramBase + 8) = some [] := by
    decide +kernel
  have hresolved : entryKernel.resolveCurrentProcessPath [] = .ok ['/'] := by decide +kernel
  have hrun : (entryKernel.copyUserProgramEntryStaging leafMapper (userProgramBase + 8)
    userProgramBase 0).toOption.map (fun result => result.toOption.map fun staging =>
      staging.argumentValues) = some (some [[104, 105]]) := by decide +kernel
  cases hstaging : entryKernel.copyUserProgramEntryStaging leafMapper (userProgramBase + 8)
      userProgramBase 0 with
  | error _ =>
    rw [hstaging] at hrun
    cases hrun
  | ok result =>
    rw [hstaging] at hrun
    cases result with
    | error _ => cases Option.some.inj hrun
    | ok staging =>
      have hvalues : staging.argumentValues = [[104, 105]] := Option.some.inj (Option.some.inj hrun)
      have hholds := ((entry_staging_iff leafMapper entryKernel hpath hresolved).2.2 staging
        hstaging).1
      exact ⟨hvalues ▸ hholds, staging, rfl, hvalues⟩

end Kernel
end ManaOS
