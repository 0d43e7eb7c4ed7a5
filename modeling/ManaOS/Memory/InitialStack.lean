/-
The initial stack of a program, read back.

`prepare_initial_stack_bytes` pushes the strings and the two pointer arrays from the top of the
stack down, through the physical frames behind it.

* `initial_stack_reads_back` (**the stack**): a program finds its arguments and environment.
-/
import ManaOS.Lib.Cells
import ManaOS.Memory.PageFills
import ManaOS.Memory.StackSlots
import ManaOS.Memory.UserValidation

namespace ManaOS
open Checked Cells AllocatedUserStack UserVirtualAddress List

/-! ### Reading the stack -/

namespace AllocatedUserStack
variable (stack : AllocatedUserStack)

/-- The physical address behind an address of the stack. -/
def physical (address : ℕ) : ℕ := stack.physicalRange.start.asAddress + (address - stack.base.asU64)

/-- The bytes of the stack from an address on. -/
def bytesAt (memory : Memory) (address byteLen : ℕ) : List UInt8 :=
  reads memory.bytes (stack.physical address) byteLen

def slotAt (memory : Memory) (address : ℕ) : ℕ :=
  fromBytes (stack.bytesAt memory address pointerSize)

/-- The string at an address: the bytes before the first NUL. -/
def stringAt (memory : Memory) (address : ℕ) : List UInt8 :=
  (stack.bytesAt memory address (stack.top.asU64 - address)).takeWhile (· != 0)

/-- The strings that the slots from an address on point to, up to the null slot. -/
def vectorAt (memory : Memory) : ℕ → ℕ → List (List UInt8)
  | 0, _ => []
  | slots + 1, address =>
    let pointer := stack.slotAt memory address
    if pointer = 0 then []
    else stack.stringAt memory pointer :: vectorAt memory slots (address + pointerSize)

/-- A stack as `allocate_user_stack` makes it: a frame for every page, the top at their end. -/
structure IsWhole : Prop where
  top_eq : stack.top.asU64 = stack.base.asU64 + stack.pageCount.byteLen
  frames_eq : stack.physicalRange.frameCount.asU64 = stack.pageCount.asU64

/-- One run of the stack has been written, and nothing else. -/
structure Writes (memory memory' : Memory) (low high : ℕ) : Prop where
  memory_eq : memory' = { memory with bytes := memory'.bytes }
  agree : AgreeOutside memory.bytes memory'.bytes (stack.physical low) (stack.physical high)

variable {stack}

lemma physical_add (h : stack.base.asU64 ≤ address) :
  stack.physical (address + n) = stack.physical address + n := by
  rw [physical, physical]
  omega

lemma physical_mono (h : address ≤ address') :
    stack.physical address ≤ stack.physical address' := by
  rw [physical, physical]
  omega

lemma Writes.refl (memory : Memory) (low high : ℕ) : stack.Writes memory memory low high :=
  ⟨rfl, .refl _ _ _⟩

lemma Writes.mono (h : stack.Writes memory memory' low high) (hlow : low' ≤ low)
  (hhigh : high ≤ high') : stack.Writes memory memory' low' high' :=
  ⟨h.memory_eq, h.agree.mono (physical_mono hlow) (physical_mono hhigh)⟩

lemma Writes.trans (h : stack.Writes memory memory' low high)
  (h' : stack.Writes memory' memory'' low high) : stack.Writes memory memory'' low high :=
  ⟨by rw [h'.memory_eq, h.memory_eq], h.agree.trans h'.agree⟩

lemma Writes.bytesAt_eq (h : stack.Writes memory memory' low high)
  (hbase : stack.base.asU64 ≤ address) (hapart : address + n ≤ low ∨ high ≤ address) :
  stack.bytesAt memory' address n = stack.bytesAt memory address n := by
  refine h.agree.reads_eq (hapart.imp (fun hle => ?_) physical_mono)
  rw [← physical_add hbase]
  exact physical_mono hle

lemma writes_writeBytes (memory : Memory) (data : List UInt8) (hbase : stack.base.asU64 ≤ low) :
  stack.Writes memory (memory.writeBytes (stack.physical low) data) low (low + data.length) ∧
    stack.bytesAt (memory.writeBytes (stack.physical low) data) low data.length = data := by
  refine ⟨⟨rfl, fun a ha => memory.writeBytes_of_out ?_⟩, ?_⟩
  · rwa [physical_add hbase] at ha
  refine ext_getElem? fun i => ?_
  by_cases hi : i < data.length
  · rw [bytesAt, getElem?_reads _ _ hi, Memory.writeBytes]
    simp [hi]
  · rw [getElem?_eq_none (by simpa [bytesAt] using hi), getElem?_eq_none (Nat.not_lt.1 hi)]

end AllocatedUserStack

section Cursor
variable {stack : AllocatedUserStack} {pointer : UserVirtualAddress}

lemma pushBytes_spec (hfit : stack.base.asU64 + byteCount ≤ pointer.asU64) :
  ∃ next : UserVirtualAddress, next.asU64 + byteCount = pointer.asU64 ∧
    UserStackCursor.pushBytes ⟨stack, pointer⟩ byteCount = .ok ⟨stack, next⟩ := by
  have hpos := Nat.pos_of_ne_zero stack.base.ne_zero
  have hlt := pointer.lt_end
  have hbase : stack.base.asU64 ≤ pointer.asU64 - byteCount := by omega
  obtain ⟨next, hnext⟩ : ∃ next, new (pointer.asU64 - byteCount) = some next :=
    ⟨⟨pointer.asU64 - byteCount, by omega, by omega⟩, new_eq_some.2 rfl⟩
  have hval := new_eq_some.1 hnext
  have hsub : pointer.checkedSub byteCount = some next := by
    rw [UserVirtualAddress.checkedSub, checkedSub_eq_some.2 ⟨by omega, rfl⟩]
    exact hnext
  refine ⟨next, by omega, ?_⟩
  rw [UserStackCursor.pushBytes, hsub, expect_some, ok_bind, require_pos (hval ▸ hbase), ok_bind]
  rfl

lemma alignDown_spec (hfit : stack.base.asU64 ≤ alignDown pointer.asU64 alignment) :
  ∃ next : UserVirtualAddress, next.asU64 = alignDown pointer.asU64 alignment ∧
    UserStackCursor.alignDown ⟨stack, pointer⟩ alignment = .ok ⟨stack, next⟩ := by
  have hpos := Nat.pos_of_ne_zero stack.base.ne_zero
  have hlt := Nat.lt_of_le_of_lt (alignDown_le pointer.asU64 alignment) pointer.lt_end
  obtain ⟨next, hnext⟩ : ∃ next, new (alignDown pointer.asU64 alignment) = some next :=
    ⟨⟨_, by omega, hlt⟩, new_eq_some.2 rfl⟩
  have hval := new_eq_some.1 hnext
  refine ⟨next, hval, ?_⟩
  rw [UserStackCursor.alignDown, hnext, expect_some, ok_bind, require_pos (hval ▸ hfit), ok_bind]
  rfl

lemma stackPointer_eq (hwhole : stack.IsWhole) {address : UserVirtualAddress}
  (hlow : stack.base.asU64 ≤ address.asU64) (hhigh : address.asU64 < stack.top.asU64) :
  UserStackCursor.stackPointer ⟨stack, pointer⟩ address = .ok (stack.physical address.asU64) := by
  have htop := hwhole.top_eq
  have hfrms := stack.physicalRange.fits
  rw [FrameCount.byteLen, hwhole.frames_eq] at hfrms
  have hlen : stack.pageCount.byteLen = stack.pageCount.asU64 * pageSize := rfl
  have hoff : address.asU64 - stack.base.asU64 < stack.pageCount.byteLen := by omega
  have hsum : stack.physicalRange.start.asAddress + (address.asU64 - stack.base.asU64) <
    wordSize := Nat.lt_of_le_of_lt (Nat.add_le_add_left (hlen ▸ hoff.le) _) hfrms
  rw [UserStackCursor.stackPointer, checkedSub_eq_some.2 ⟨hlow, rfl⟩, expect_some, ok_bind,
    require_pos hoff, ok_bind, checkedAdd_eq_some.2 ⟨hsum, rfl⟩]
  rfl

end Cursor

/-! ### Strings -/

/-- The bytes that the strings of a vector take, with their terminators. -/
def stringBytes (values : List (List UInt8)) : ℕ := (values.map fun value => value.length + 1).sum

@[simp] lemma stringBytes_cons (value : List UInt8) (values : List (List UInt8)) :
  stringBytes (value :: values) = value.length + 1 + stringBytes values := by
  rw [stringBytes, map_cons, sum_cons]
  rfl

/-- The strings lie one after the other from an address on, each with its terminator. -/
inductive LaidStrings (stack : AllocatedUserStack) (memory : Memory) :
    ℕ → List UserVirtualAddress → List (List UInt8) → Prop
  | nil {address : ℕ} : LaidStrings stack memory address [] []
  | cons {pointer : UserVirtualAddress} {value : List UInt8} {pointers : List UserVirtualAddress}
      {values : List (List UInt8)}
      (hbytes : stack.bytesAt memory pointer.asU64 (value.length + 1) = value ++ [0])
      (hrest : LaidStrings stack memory (pointer.asU64 + (value.length + 1)) pointers values) :
      LaidStrings stack memory pointer.asU64 (pointer :: pointers) (value :: values)

section Strings
variable {stack : AllocatedUserStack} {pointer : UserVirtualAddress}

lemma LaidStrings.length_eq (h : LaidStrings stack memory address pointers values) :
  pointers.length = values.length := by
  induction h with
  | nil => rfl
  | cons _ _ ih => rw [length_cons, length_cons, ih]

lemma LaidStrings.of_writes (h : LaidStrings stack memory address pointers values)
  (hwrs : stack.Writes memory memory' low high) (hbase : stack.base.asU64 ≤ address)
  (hapart : address + stringBytes values ≤ low ∨ high ≤ address) :
  LaidStrings stack memory' address pointers values := by
  induction h with
  | nil => exact .nil
  | cons hbytes _ ih =>
    rw [stringBytes_cons] at hapart
    exact .cons (by rw [hwrs.bytesAt_eq hbase (by omega), hbytes]) (ih (by omega) (by omega))

lemma pushCStringBytes_spec (hwhole : stack.IsWhole) (memory : Memory) (value : List UInt8)
    (hfit : stack.base.asU64 + (value.length + 1) ≤ pointer.asU64)
    (htop : pointer.asU64 ≤ stack.top.asU64) :
    ∃ (next : UserVirtualAddress) (memory' : Memory),
      next.asU64 + (value.length + 1) = pointer.asU64 ∧
      pushCStringBytes ⟨stack, pointer⟩ memory value = .ok (⟨stack, next⟩, memory') ∧
      stack.Writes memory memory' next.asU64 pointer.asU64 ∧
      stack.bytesAt memory' next.asU64 (value.length + 1) = value ++ [0] := by
  obtain ⟨next, hnext, hpush⟩ := pushBytes_spec hfit
  have hword : value.length + 1 < wordSize :=
    Nat.lt_of_le_of_lt (by omega) (Nat.lt_trans pointer.lt_end (by decide))
  have hbase : stack.base.asU64 ≤ next.asU64 := by omega
  obtain ⟨hwrs, hbytes⟩ := writes_writeBytes memory (value ++ [0]) hbase
  rw [length_append, length_singleton] at hwrs hbytes
  refine ⟨next, _, hnext, ?_, hnext ▸ hwrs, hbytes⟩
  rw [pushCStringBytes, saturatingAdd_of_lt hword, hpush, ok_bind,
    stackPointer_eq hwhole hbase (by omega), ok_bind]
  rfl

lemma pushCStrings_spec (hwhole : stack.IsWhole) (memory : Memory) (values : List (List UInt8))
    (hfit : stack.base.asU64 + stringBytes values ≤ pointer.asU64)
    (htop : pointer.asU64 ≤ stack.top.asU64) :
    ∃ (next : UserVirtualAddress) (memory' : Memory) (pointers : List UserVirtualAddress),
      next.asU64 + stringBytes values = pointer.asU64 ∧
      pushCStrings ⟨stack, pointer⟩ memory values = .ok (⟨stack, next⟩, memory', pointers) ∧
      stack.Writes memory memory' next.asU64 pointer.asU64 ∧
      LaidStrings stack memory' next.asU64 pointers values := by
  induction values with
  | nil => exact ⟨pointer, memory, [], rfl, rfl, .refl _ _ _, .nil⟩
  | cons value _ ih =>
    rw [stringBytes_cons] at hfit
    obtain ⟨next, memory1, pointers, _, hpush, hwrs, hlaid⟩ := ih (by omega)
    have hnextFit : stack.base.asU64 + (value.length + 1) ≤ next.asU64 := by omega
    obtain ⟨next', memory2, hnext', hpush', hwrs', hbytes⟩ :=
      pushCStringBytes_spec hwhole memory1 value hnextFit (by omega)
    refine ⟨next', memory2, next' :: pointers, by rw [stringBytes_cons]; omega, ?_,
      (hwrs.mono (by omega) (Nat.le_refl _)).trans
        (hwrs'.mono (Nat.le_refl _) (by omega)), .cons hbytes ?_⟩
    · rw [pushCStrings, hpush, ok_bind]
      dsimp only
      rw [hpush', ok_bind]
      rfl
    · rw [hnext']
      exact hlaid.of_writes hwrs' (by omega) (.inr (Nat.le_refl _))

end Strings

/-! ### Pointer arrays -/

/-- The slots from an address on hold the pointers, then null. -/
inductive LaidSlots (stack : AllocatedUserStack) (memory : Memory) :
    ℕ → List UserVirtualAddress → Prop
  | nil {address : ℕ} (hslot : stack.slotAt memory address = 0) : LaidSlots stack memory address []
  | cons {address : ℕ} {pointer : UserVirtualAddress} {pointers : List UserVirtualAddress}
      (hslot : stack.slotAt memory address = pointer.asU64)
      (hrest : LaidSlots stack memory (address + pointerSize) pointers) :
      LaidSlots stack memory address (pointer :: pointers)

section Slots
variable {stack : AllocatedUserStack} {memory memory' : Memory} {pointer start : UserVirtualAddress}
  {pointers : List UserVirtualAddress}

lemma LaidSlots.of_writes (h : LaidSlots stack memory address pointers)
  (hwrs : stack.Writes memory memory' low high) (hbase : stack.base.asU64 ≤ address)
  (hapart : address + pointerSize * (pointers.length + 1) ≤ low ∨ high ≤ address) :
  LaidSlots stack memory' address pointers := by
  rw [pointerSize] at hapart
  induction h with
  | nil hslot =>
    refine .nil ?_
    rw [slotAt, hwrs.bytesAt_eq hbase (by rw [pointerSize]; simpa using hapart)]
    exact hslot
  | cons hslot _ ih =>
    rw [length_cons] at hapart
    refine .cons ?_ (ih (by omega) (by rw [pointerSize]; omega))
    rw [slotAt, hwrs.bytesAt_eq hbase (by rw [pointerSize]; omega)]
    exact hslot

lemma writeU64_spec (hwhole : stack.IsWhole) (memory : Memory) {slot : UserVirtualAddress}
  {value : ℕ} (hval : value < wordSize) (hlow : stack.base.asU64 ≤ slot.asU64)
  (hhigh : slot.asU64 < stack.top.asU64) :
  ∃ memory', UserStackCursor.writeU64 ⟨stack, pointer⟩ memory slot value = .ok memory' ∧
    stack.Writes memory memory' slot.asU64 (slot.asU64 + pointerSize) ∧
    stack.slotAt memory' slot.asU64 = value := by
  obtain ⟨hwrs, hbytes⟩ := writes_writeBytes memory (toBytes 8 value) hlow
  rw [toBytes_length] at hwrs hbytes
  refine ⟨_, ?_, hwrs, ?_⟩
  · rw [UserStackCursor.writeU64, stackPointer_eq hwhole hlow hhigh, ok_bind]
    rfl
  · rw [slotAt, pointerSize, hbytes]
    rw [fromBytes_toBytes]
    exact Nat.mod_eq_of_lt (Nat.lt_of_lt_of_eq hval (by decide))

lemma writeSlot_spec (hwhole : stack.IsWhole) (hbase : stack.base.asU64 ≤ start.asU64)
    (pointer : UserVirtualAddress) (memory : Memory) (index : ℕ) (hval : value < wordSize)
    (hhigh : start.asU64 + pointerSize * index < stack.top.asU64) :
    ∃ slot memory',
      checkedMul index pointerSize = some (pointerSize * index) ∧
      start.checkedAdd (pointerSize * index) = some slot ∧
      UserStackCursor.writeU64 ⟨stack, pointer⟩ memory slot value = .ok memory' ∧
      stack.Writes memory memory' (start.asU64 + pointerSize * index)
        (start.asU64 + pointerSize * index + pointerSize) ∧
      stack.slotAt memory' (start.asU64 + pointerSize * index) = value := by
  have hend := stack.top.lt_end
  have hpos := Nat.pos_of_ne_zero start.ne_zero
  have hword : userSpaceEnd < wordSize := by decide
  have hsum : start.asU64 + pointerSize * index < wordSize := by omega
  obtain ⟨slot, hslot⟩ : ∃ slot, new (start.asU64 + pointerSize * index) =
    some slot := ⟨⟨_, by omega, by omega⟩, new_eq_some.2 rfl⟩
  have hslotValue := new_eq_some.1 hslot
  have hlow : stack.base.asU64 ≤ slot.asU64 := by omega
  obtain ⟨memory', hwrite, hwrs, hread⟩ :=
    @writeU64_spec stack pointer hwhole memory slot value hval hlow (hslotValue ▸ hhigh)
  rw [hslotValue] at hwrs hread
  refine ⟨slot, memory', checkedMul_eq_some.2 ⟨by rw [Nat.mul_comm]; omega, Nat.mul_comm _ _⟩, ?_,
    hwrite, hwrs, hread⟩
  rw [UserVirtualAddress.checkedAdd, checkedAdd_eq_some.2 ⟨hsum, rfl⟩]
  exact hslot

lemma writePointerSlots_spec (hwhole : stack.IsWhole) (hbase : stack.base.asU64 ≤ start.asU64)
  (pointers : List UserVirtualAddress) (memory : Memory) (index : ℕ)
  (hhigh : start.asU64 + pointerSize * (index + pointers.length) < stack.top.asU64) :
  ∃ memory', writePointerSlots ⟨stack, pointer⟩ start index pointers memory = .ok memory' ∧
    stack.Writes memory memory' (start.asU64 + pointerSize * index)
      (start.asU64 + pointerSize * (index + (pointers.length + 1))) ∧
    LaidSlots stack memory' (start.asU64 + pointerSize * index) pointers := by
  have hsize : pointerSize = 8 := rfl
  induction pointers generalizing memory index with
  | nil =>
    obtain ⟨slot, memory', hmul, hadd, hwrite, hwrs, hread⟩ :=
      writeSlot_spec hwhole hbase pointer memory index (by decide : 0 < wordSize) hhigh
    refine ⟨memory', ?_, hwrs, .nil hread⟩
    rw [writePointerSlots, hmul, expect_some, ok_bind, hadd, expect_some, ok_bind, hwrite]
  | cons head _ ih =>
    rw [length_cons] at hhigh ⊢
    have hword : head.asU64 < wordSize := Nat.lt_trans head.lt_end (by decide)
    obtain ⟨_, memory1, hmul, hadd, hwrite, hwrs, hread⟩ :=
      writeSlot_spec hwhole hbase pointer memory index hword (by rw [hsize] at *; omega)
    obtain ⟨memory', hrest, hwrs', hlaid⟩ := ih memory1 (index + 1)
      (by rw [hsize] at *; omega)
    have hnext : start.asU64 + pointerSize * (index + 1) =
      start.asU64 + pointerSize * index + pointerSize := rfl
    rw [hnext] at hwrs' hlaid
    refine ⟨memory', ?_, (hwrs.mono (Nat.le_refl _) ?_).trans (hwrs'.mono ?_ ?_), .cons ?_ hlaid⟩
    · rw [writePointerSlots, hmul, expect_some, ok_bind, hadd, expect_some, ok_bind, hwrite,
        ok_bind, hrest]
    · rw [hsize]
      omega
    · exact Nat.le_add_right _ _
    · rw [hsize]
      omega
    -- the later slots do not reach this one
    rw [slotAt, hwrs'.bytesAt_eq (Nat.le_trans hbase (Nat.le_add_right _ _)) (.inl (Nat.le_refl _))]
    exact hread

lemma pushPointerArray_spec (hwhole : stack.IsWhole) (memory : Memory)
    (pointers : List UserVirtualAddress)
    (hfit : stack.base.asU64 + pointerSize * (pointers.length + 1) ≤ pointer.asU64)
    (htop : pointer.asU64 ≤ stack.top.asU64) :
    ∃ (next : UserVirtualAddress) (memory' : Memory),
      next.asU64 + pointerSize * (pointers.length + 1) = pointer.asU64 ∧
      pushPointerArray ⟨stack, pointer⟩ memory pointers = .ok (⟨stack, next⟩, memory') ∧
      stack.Writes memory memory' next.asU64 pointer.asU64 ∧
      LaidSlots stack memory' next.asU64 pointers := by
  have hsize : pointerSize = 8 := rfl
  have hend : pointer.asU64 < wordSize := Nat.lt_trans pointer.lt_end (by decide)
  obtain ⟨next, hnext, hpush⟩ := pushBytes_spec hfit
  obtain ⟨memory', hwrite, hwrs, hlaid⟩ := @writePointerSlots_spec stack next next hwhole
    (by omega) pointers memory 0 (by rw [hsize] at *; omega)
  rw [Nat.mul_zero, Nat.add_zero] at hwrs hlaid
  rw [Nat.zero_add, hnext] at hwrs
  refine ⟨next, memory', hnext, ?_, hwrs, hlaid⟩
  rw [pushPointerArray, saturatingAdd_of_lt (by rw [hsize] at *; omega),
    checkedMul_eq_some.2 ⟨by rw [hsize] at *; omega, Nat.mul_comm _ _⟩, expect_some, ok_bind, hpush,
    ok_bind]
  dsimp only
  rw [hwrite, ok_bind]
  rfl

end Slots

/-! ### Reading back -/

section Readers
variable {stack : AllocatedUserStack} {values : List (List UInt8)}
  {pointers : List UserVirtualAddress}

lemma stringAt_eq {value : List UInt8}
  (hbytes : stack.bytesAt memory address (value.length + 1) = value ++ [0]) (hnul : 0 ∉ value)
  (hbase : stack.base.asU64 ≤ address) (htop : address + (value.length + 1) ≤ stack.top.asU64) :
  stack.stringAt memory address = value := by
  obtain ⟨rest, _⟩ := Nat.exists_eq_add_of_le htop
  have hlen : stack.top.asU64 - address = value.length + 1 + rest := by omega
  have hread : stack.bytesAt memory address (value.length + 1 + rest) =
    value ++ 0 :: stack.bytesAt memory (address + (value.length + 1)) rest := by
    rw [bytesAt, reads_add, ← physical_add hbase]
    change stack.bytesAt memory address (value.length + 1) ++ _ = _
    rw [hbytes, append_assoc]
    rfl
  rw [stringAt, hlen, hread, takeWhile_append_of_pos, takeWhile_cons]
  · simp
  · intro _ hbyte
    rw [bne_iff_ne]
    exact fun hzero => hnul (hzero ▸ hbyte)

lemma LaidStrings.stringAt_eq (h : LaidStrings stack memory address pointers values)
    (hnul : ∀ value ∈ values, 0 ∉ value) (hbase : stack.base.asU64 ≤ address)
    (htop : address + stringBytes values ≤ stack.top.asU64) :
    List.Forall₂ (fun pointer value => stack.stringAt memory pointer.asU64 = value) pointers
      values := by
  induction h with
  | nil => exact .nil
  | cons hbytes _ ih =>
    rw [stringBytes_cons] at htop
    refine .cons (ManaOS.stringAt_eq hbytes (hnul _ mem_cons_self) hbase (by omega))
      (ih (fun value hval => hnul value (mem_cons_of_mem _ hval)) (by omega) (by omega))

lemma LaidSlots.vectorAt_eq (h : LaidSlots stack memory address pointers)
    (hstrings :
      List.Forall₂ (fun pointer value => stack.stringAt memory pointer.asU64 = value) pointers
        values) (hslots : values.length < slots) :
    stack.vectorAt memory slots address = values := by
  induction h generalizing values slots with
  | nil hslot =>
    cases hstrings
    obtain ⟨slots, rfl⟩ := Nat.exists_eq_add_of_lt hslots
    rw [length_nil, Nat.zero_add, vectorAt]
    exact if_pos hslot
  | @cons _ pointer _ hslot _ ih =>
    cases hstrings with
    | cons hstr hrest =>
      obtain ⟨_, rfl⟩ := Nat.exists_eq_add_of_lt hslots
      rw [vectorAt, if_neg (by rw [hslot]; exact pointer.ne_zero), hslot,
        hstr, ih hrest (by rw [length_cons]; omega)]

/-- The places of the strings of a vector. -/
def stringPieces (pointers : List UserVirtualAddress) (values : List (List UInt8)) : List (ℕ × ℕ) :=
    List.zipWith (fun pointer value => (pointer.asU64, value.length + 1)) pointers values

/-- Two pieces, given by start and length, do not overlap. -/
def PiecesApart (a b : ℕ × ℕ) : Prop := a.1 + a.2 ≤ b.1 ∨ b.1 + b.2 ≤ a.1

lemma LaidStrings.within (h : LaidStrings stack memory address pointers values) :
  ∀ piece ∈ stringPieces pointers values, address ≤ piece.1 ∧
    piece.1 + piece.2 ≤ address + stringBytes values := by
  induction h with
  | nil =>
    intro piece hpiece
    cases hpiece
  | cons _ _ ih =>
    intro piece hpiece
    rw [stringBytes_cons]
    rcases mem_cons.1 hpiece with rfl | hpiece
    · dsimp only
      omega
    · have hwin := ih piece hpiece
      omega

lemma LaidStrings.pairwise_apart (h : LaidStrings stack memory address pointers values) :
  (stringPieces pointers values).Pairwise PiecesApart := by
  induction h with
  | nil => exact .nil
  | cons _ hrest ih =>
    refine .cons (fun piece hpiece => .inl ?_) ih
    exact (hrest.within piece hpiece).1

end Readers

/-! ### The whole block -/

namespace AllocatedUserStack
variable (stack : AllocatedUserStack)

/-- The stack pointer that the block of two vectors leads to. -/
def entryPointer (arguments environment : List (List UInt8)) : ℕ :=
  alignDown (alignDown (stack.top.asU64 - (stringBytes arguments + stringBytes environment))
    pointerSize - pointerSize * (environment.length + 1) - pointerSize * (arguments.length + 1))
    userStackAlignment

/-- The block of two vectors stays on the stack. -/
def Fits (arguments environment : List (List UInt8)) : Prop :=
  stack.base.asU64 ≤ stack.entryPointer arguments environment

instance (arguments environment : List (List UInt8)) : Decidable
  (stack.Fits arguments environment) := inferInstanceAs (Decidable (_ ≤ _))

end AllocatedUserStack

/-- The pieces of the block: the two arrays and the strings. -/
def PreparedUserStack.pieces (prepared : PreparedUserStack)
  (argumentPointers environmentPointers : List UserVirtualAddress)
  (arguments environment : List (List UInt8)) : List (ℕ × ℕ) :=
  (prepared.argumentValuesPointer.asU64, pointerSize * (arguments.length + 1)) ::
    (prepared.environmentValuesPointer.asU64, pointerSize * (environment.length + 1)) ::
    (stringPieces environmentPointers environment ++ stringPieces argumentPointers arguments)

section Block
variable {mapper : PageMapper} {space : UserAddressSpace} {stack : AllocatedUserStack}
  {arguments environment : List (List UInt8)}

/-- What the block leaves on a stack, from the stack pointer up: two arrays, then the strings of the
environment and of the arguments. -/
structure Prepares (stack : AllocatedUserStack) (memory' : Memory) (prepared : PreparedUserStack)
    (argumentPointers environmentPointers : List UserVirtualAddress)
    (arguments environment : List (List UInt8)) (strings middle : ℕ) : Prop where
  count_eq : prepared.argumentCount = arguments.length
  pointer_eq : prepared.stackPointer.asU64 = stack.entryPointer arguments environment
  pointer_le : prepared.stackPointer.asU64 ≤ prepared.argumentValuesPointer.asU64
  argumentArray_eq : prepared.argumentValuesPointer.asU64 + pointerSize * (arguments.length + 1) =
    prepared.environmentValuesPointer.asU64
  environmentArray_le : prepared.environmentValuesPointer.asU64 +
    pointerSize * (environment.length + 1) ≤ strings
  environmentStrings_eq : strings + stringBytes environment = middle
  argumentStrings_eq : middle + stringBytes arguments = stack.top.asU64
  argumentSlots : LaidSlots stack memory' prepared.argumentValuesPointer.asU64 argumentPointers
  environmentSlots :
    LaidSlots stack memory' prepared.environmentValuesPointer.asU64 environmentPointers
  environmentStrings : LaidStrings stack memory' strings environmentPointers environment
  argumentStrings : LaidStrings stack memory' middle argumentPointers arguments

lemma prepareInitialStackBytes_spec (hwhole : stack.IsWhole) (memory : Memory)
    (hmpd : ∀ range,
        UserVirtualRange.new stack.base stack.pageCount.byteLen = some range →
        space.isUserRangeMappedWritable mapper memory ⟨range⟩ = true)
    (hargs : arguments.length ≤ maxUserEntryStrings)
    (henv : environment.length ≤ maxUserEntryStrings)
    (hnul : ∀ value ∈ arguments ++ environment, 0 ∉ value)
    (hfits : stack.Fits arguments environment) :
    ∃ prepared memory' argumentPointers environmentPointers strings middle,
      prepareInitialStackBytes mapper space memory stack arguments environment =
        .ok (prepared, memory') ∧
      Prepares stack memory' prepared argumentPointers environmentPointers arguments environment
        strings middle := by
  have htop := hwhole.top_eq
  have hpos : 0 < stack.pageCount.byteLen := Nat.mul_pos stack.pageCount.pos (by decide)
  have hlt : stack.base.asU64 < stack.top.asU64 := by omega
  have hbase := Nat.pos_of_ne_zero stack.base.ne_zero
  have hrg : UserVirtualRange.new stack.base stack.pageCount.byteLen =
    some ⟨stack.base, stack.pageCount.byteLen, hpos, htop ▸ stack.top.lt_end.le⟩ :=
    dif_pos ⟨hpos, htop ▸ stack.top.lt_end.le⟩
  have hall : ((arguments ++ environment).all fun value => !value.contains 0) = true := by
    rw [all_eq_true]
    intro value hval
    simpa using hnul value hval
  have hent := hfits
  simp only [AllocatedUserStack.Fits, AllocatedUserStack.entryPointer, alignDown, pointerSize,
    userStackAlignment] at hent
  -- the pushes, from the top down
  obtain ⟨p1, memory1, argumentPointers, hp1, hpush1, _, hlaid1⟩ :=
    pushCStrings_spec hwhole memory arguments
      (show stack.base.asU64 + stringBytes arguments ≤ stack.top.asU64 by omega) (Nat.le_refl _)
  obtain ⟨p2, memory2, environmentPointers, hp2, hpush2, hwrs2, hlaid2⟩ :=
    pushCStrings_spec hwhole memory1 environment
      (show stack.base.asU64 + stringBytes environment ≤ p1.asU64 by omega) (by omega)
  have hval2 : p2.asU64 =
    stack.top.asU64 - (stringBytes arguments + stringBytes environment) := by omega
  obtain ⟨p3, hp3, halign3⟩ := alignDown_spec
    (show stack.base.asU64 ≤ alignDown p2.asU64 pointerSize by
      rw [hval2, alignDown, pointerSize]
      omega)
  have hle3 : p3.asU64 ≤ p2.asU64 := hp3 ▸ alignDown_le _ _
  have hlength1 := hlaid1.length_eq
  have hlength2 := hlaid2.length_eq
  rw [alignDown, pointerSize, hval2] at hp3
  obtain ⟨p4, memory3, hp4, hpush4, hwrites4, hlaid4⟩ :=
    pushPointerArray_spec hwhole memory2 environmentPointers
      (show stack.base.asU64 + pointerSize * (environmentPointers.length + 1) ≤ p3.asU64 by
        rw [hlength2, pointerSize]
        omega) (by omega)
  rw [hlength2] at hp4
  obtain ⟨p5, memory4, hp5, hpush5, hwrites5, hlaid5⟩ :=
    pushPointerArray_spec hwhole memory3 argumentPointers
      (show stack.base.asU64 + pointerSize * (argumentPointers.length + 1) ≤ p4.asU64 by
        rw [hlength1]
        rw [pointerSize] at *
        omega) (by omega)
  rw [hlength1] at hp5
  have hvalue5 : p5.asU64 = alignDown (stack.top.asU64 - (stringBytes arguments +
    stringBytes environment)) pointerSize - pointerSize * (environment.length + 1) -
    pointerSize * (arguments.length + 1) := by
    rw [alignDown]
    rw [pointerSize] at *
    omega
  have hbase6 : stack.base.asU64 ≤ alignDown p5.asU64 userStackAlignment := by
    rw [hvalue5]
    exact hfits
  have hbase5 := Nat.le_trans hbase6 (alignDown_le _ _)
  obtain ⟨p6, hp6, halign6⟩ := alignDown_spec hbase6
  refine ⟨⟨p6, arguments.length, p5, p4⟩, memory4, argumentPointers, environmentPointers, p2.asU64,
    p1.asU64, ?_, rfl, by rw [hp6, hvalue5]; rfl, hp6 ▸ alignDown_le _ _, hp5, hp4 ▸ hle3, hp2, hp1,
    hlaid5, ?_, ?_, ?_⟩
  · rw [prepareInitialStackBytes, require_pos hlt, ok_bind, writableUserRange, hrg, expect_some]
    simp only [ok_bind, pure_eq]
    rw [(require_eq_ok (u := ())).2 (hmpd _ hrg), ok_bind, require_pos hargs, ok_bind,
      require_pos henv, ok_bind, (require_eq_ok (u := ())).2 hall, ok_bind,
      UserStackCursor.new, require_pos hlt, ok_bind]
    simp only [pure_eq, ok_bind, hpush1, hpush2, halign3, hpush4, hpush5, halign6]
  · exact hlaid4.of_writes hwrites5 (by omega) (.inr (Nat.le_refl _))
  · exact (hlaid2.of_writes hwrites4 (by omega) (.inr hle3)).of_writes hwrites5 (by omega)
      (.inr (by omega))
  · exact ((hlaid1.of_writes hwrs2 (by omega) (.inr (Nat.le_refl _))).of_writes hwrites4
      (by omega) (.inr (by omega))).of_writes hwrites5 (by omega) (.inr (by omega))

/-- The pointers lead to copies of the strings, each with a NUL behind it. -/
def PointsToCopies (stack : AllocatedUserStack) (memory : Memory)
  (pointers : List UserVirtualAddress) (values : List (List UInt8)) : Prop :=
  List.Forall₂ (fun pointer value =>
    stack.bytesAt memory pointer.asU64 (value.length + 1) = value ++ [0]) pointers values

lemma LaidStrings.pointsToCopies (h : LaidStrings stack memory address pointers values) :
  PointsToCopies stack memory pointers values := by
  induction h with
  | nil => exact .nil
  | cons hbytes _ ih => exact .cons hbytes ih

/-- What the program finds on its stack. -/
structure ReadsBack (stack : AllocatedUserStack) (memory : Memory) (prepared : PreparedUserStack)
    (argumentPointers environmentPointers : List UserVirtualAddress)
    (arguments environment : List (List UInt8)) : Prop where
  argumentCount_eq : prepared.argumentCount = arguments.length
  argumentValues_eq : stack.vectorAt memory (maxUserEntryStrings + 1)
    prepared.argumentValuesPointer.asU64 = arguments
  environmentValues_eq : stack.vectorAt memory (maxUserEntryStrings + 1)
    prepared.environmentValuesPointer.asU64 = environment
  argumentSlots : LaidSlots stack memory prepared.argumentValuesPointer.asU64 argumentPointers
  environmentSlots :
    LaidSlots stack memory prepared.environmentValuesPointer.asU64 environmentPointers
  argumentCopies : PointsToCopies stack memory argumentPointers arguments
  environmentCopies : PointsToCopies stack memory environmentPointers environment
  apart : (prepared.pieces argumentPointers environmentPointers arguments environment).Pairwise
    PiecesApart
  within : ∀ piece ∈ prepared.pieces argumentPointers environmentPointers arguments environment,
    prepared.stackPointer.asU64 ≤ piece.1 ∧ piece.1 + piece.2 ≤ stack.top.asU64
  base_le : stack.base.asU64 ≤ prepared.stackPointer.asU64
  aligned : prepared.stackPointer.asU64 % userStackAlignment = 0

section Pieces
variable {memory : Memory} {prepared : PreparedUserStack}
  {argumentPointers environmentPointers : List UserVirtualAddress} {strings middle : ℕ}
  (h : Prepares stack memory prepared argumentPointers environmentPointers arguments environment
    strings middle)
include h

lemma Prepares.within :
    ∀ piece ∈ prepared.pieces argumentPointers environmentPointers arguments environment,
      prepared.stackPointer.asU64 ≤ piece.1 ∧ piece.1 + piece.2 ≤ stack.top.asU64 := by
  have h1 := h.pointer_le
  have h2 := h.argumentArray_eq
  have h3 := h.environmentArray_le
  have h4 := h.environmentStrings_eq
  have h5 := h.argumentStrings_eq
  intro piece hpiece
  simp only [PreparedUserStack.pieces, mem_cons, mem_append] at hpiece
  rcases hpiece with rfl | rfl | hpiece | hpiece
  · dsimp only
    omega
  · dsimp only
    omega
  · have hwin := h.environmentStrings.within piece hpiece
    omega
  · have hwin := h.argumentStrings.within piece hpiece
    omega

lemma Prepares.apart :
    (prepared.pieces argumentPointers environmentPointers arguments environment).Pairwise
      PiecesApart := by
  have h2 := h.argumentArray_eq
  have h3 := h.environmentArray_le
  have h4 := h.environmentStrings_eq
  -- every string lies behind the arrays
  have hbehind : ∀ piece ∈ stringPieces environmentPointers environment ++
    stringPieces argumentPointers arguments, strings ≤ piece.1 := by
    intro piece hpiece
    rcases mem_append.1 hpiece with hpiece | hpiece
    · exact (h.environmentStrings.within piece hpiece).1
    · have hwin := h.argumentStrings.within piece hpiece
      omega
  refine .cons (fun piece hpiece => .inl ?_) (.cons (fun piece hpiece => .inl ?_) ?_)
  · rcases mem_cons.1 hpiece with rfl | hpiece
    · exact h2.le
    · have hpiece := hbehind piece hpiece
      dsimp only
      omega
  · exact h3.trans (hbehind piece hpiece)
  refine pairwise_append.2 ⟨h.environmentStrings.pairwise_apart,
    h.argumentStrings.pairwise_apart, fun a ha b hb => .inl ?_⟩
  exact ((h.environmentStrings.within a ha).2.trans h4.le).trans
    (h.argumentStrings.within b hb).1

end Pieces

/-- **The initial stack.**  A block that fits a mapped stack is written, and the returned pointers
give the arguments and the environment back: the arrays end with a null slot and point to
NUL-terminated copies, arrays and strings lie apart on the stack, and the stack pointer is aligned
and below all of them. -/
theorem initial_stack_reads_back (hwhole : stack.IsWhole) (memory : Memory)
    (hmapped : ∀ range,
        UserVirtualRange.new stack.base stack.pageCount.byteLen = some range →
        space.isUserRangeMappedWritable mapper memory ⟨range⟩ = true)
    (harguments : arguments.length ≤ maxUserEntryStrings)
    (henvironment : environment.length ≤ maxUserEntryStrings)
    (hnul : ∀ value ∈ arguments ++ environment, 0 ∉ value)
    (hfits : stack.Fits arguments environment) :
    ∃ prepared memory' argumentPointers environmentPointers,
      prepareInitialStackBytes mapper space memory stack arguments environment =
        .ok (prepared, memory') ∧
      ReadsBack stack memory' prepared argumentPointers environmentPointers arguments
        environment := by
  obtain ⟨prepared, memory', argumentPointers, environmentPointers, _, _, hok, h⟩ :=
    prepareInitialStackBytes_spec hwhole memory hmapped harguments henvironment hnul hfits
  have h1 := h.pointer_le
  have h2 := h.argumentArray_eq
  have h3 := h.environmentArray_le
  have h4 := h.environmentStrings_eq
  have h5 := h.argumentStrings_eq
  have hbase : stack.base.asU64 ≤ prepared.stackPointer.asU64 := by
    rw [h.pointer_eq]
    exact hfits
  have hargumentStrings := h.argumentStrings.stringAt_eq
    (fun value hvalue => hnul value (mem_append_left _ hvalue)) (by omega) h5.le
  have henvironmentStrings := h.environmentStrings.stringAt_eq
    (fun value hvalue => hnul value (mem_append_right _ hvalue)) (by omega) (by omega)
  refine ⟨prepared, memory', argumentPointers, environmentPointers, hok, h.count_eq,
    h.argumentSlots.vectorAt_eq hargumentStrings (Nat.lt_succ_of_le harguments),
    h.environmentSlots.vectorAt_eq henvironmentStrings (Nat.lt_succ_of_le henvironment),
    h.argumentSlots, h.environmentSlots, h.argumentStrings.pointsToCopies,
    h.environmentStrings.pointsToCopies, h.apart, h.within, hbase, ?_⟩
  rw [h.pointer_eq]
  exact Nat.mod_eq_zero_of_dvd (dvd_alignDown _ _)

end Block

lemma firstStackPage_lt : userStackRegionBase + pageSize < userSpaceEnd := by decide

/-- A stack of one page, in the first slot. -/
def onePageStack : AllocatedUserStack where
  base := ⟨userStackRegionBase, by decide, by decide⟩
  top := ⟨userStackRegionBase + pageSize, Nat.succ_ne_zero _, firstStackPage_lt⟩
  physicalRange := ⟨⟨2 * pageSize, rfl⟩, .one, by decide⟩
  pageCount := onePage

/-- One argument and one environment string on a stack of one page. -/
theorem initial_stack_reads_back_onePage :
    ∃ prepared memory' argumentPointers environmentPointers,
      prepareInitialStackBytes leafMapper ⟨selfMappedMemory.activeLevel4Frame⟩ selfMappedMemory
        onePageStack [[104, 105]] [[65, 61, 49]] =
        .ok (prepared, memory') ∧
      ReadsBack onePageStack memory' prepared argumentPointers environmentPointers [[104, 105]]
        [[65, 61, 49]] := by
  have hmapped : (UserVirtualRange.new onePageStack.base onePageStack.pageCount.byteLen).all
    (fun range => UserAddressSpace.isUserRangeMappedWritable leafMapper
      ⟨selfMappedMemory.activeLevel4Frame⟩ selfMappedMemory ⟨range⟩) = true := by decide +kernel
  refine initial_stack_reads_back ⟨rfl, rfl⟩ selfMappedMemory (fun range hrange => ?_) (by decide)
    (by decide) (by decide) (by decide)
  rw [hrange, Option.all_some] at hmapped
  exact hmapped

end ManaOS
