/-
User memory as the kernel sees it: a byte at every address that it may read.

* `copyCstrFrom_spec`: a string is what comes before its NUL, and why there may be none.
-/
import ManaOS.Memory.UserValidation

namespace ManaOS
open Checked UserVirtualRange List Option Nat

/-- The bytes that can be read, by address. -/
abbrev View := ℕ → Option UInt8

/-- The byte at an address that the kernel may read for the user. -/
def Memory.userView (mapper : PageMapper) (memory : Memory) : View := fun address =>
  (UserVirtualAddress.new address).bind (copyUserByte mapper memory)

namespace View
variable {view view' : View}

/-- The pointer in the slot at an address, if its bytes can be read. -/
def slot (view : View) (address : ℕ) : Option ℕ :=
  ((List.range 8).mapM fun i => view (address + i)).map fromBytes

/-- The bytes from an address on can be read, and none of them is NUL. -/
def PlainUpTo (view : View) (address length : ℕ) : Prop :=
  ∀ i < length, ∃ byte, view (address + i) = some byte ∧ byte ≠ 0

/-- The string at an address ends within the window. -/
structure HasString (view : View) (window address : ℕ) (value : List UInt8) : Prop where
  length_lt : value.length < window
  byte_eq : ∀ i byte, value[i]? = some byte → view (address + i) = some byte
  nul_notMem : 0 ∉ value
  terminated : view (address + value.length) = some 0

/-- No string can be read in the window: a byte before its NUL is unreadable, or none is NUL. -/
def NoString (view : View) (window address : ℕ) : Prop := (∃ i <
  window, view.PlainUpTo address i ∧ view (address + i) = none) ∨ view.PlainUpTo address window

end View

/-! ### Bytes -/

lemma mapM_eq_some_map {α β : Type} {f : α → Option β} {g : α → β} {l : List α}
  (h : ∀ a ∈ l, f a = some (g a)) : l.mapM f = some (l.map g) := by
  induction l with
  | nil => rfl
  | cons a l ih =>
    rw [mapM_cons, h a mem_cons_self, ih fun b hb => h b (mem_cons_of_mem a hb)]
    rfl

lemma mapM_eq_none {α β : Type} {f : α → Option β} {a : α} {l : List α} (ha : a ∈ l)
  (h : f a = none) : l.mapM f = none := by
  induction l with
  | nil => cases ha
  | cons b l ih =>
    rw [mapM_cons]
    rcases mem_cons.1 ha with rfl | ha
    · rw [h]
      rfl
    · rw [ih ha]
      cases f b <;> rfl

section Bytes
variable {memory : Memory}

lemma userView_eq (address : UserVirtualAddress) :
  memory.userView mapper address.asU64 = copyUserByte mapper memory address := by
  rw [Memory.userView, UserVirtualAddress.new_eq_some.2 rfl]
  rfl

lemma userView_eq_none (h : address = 0 ∨ userSpaceEnd ≤ address) :
  memory.userView mapper address = none := by
  have hnone : UserVirtualAddress.new address = none := dif_neg (by omega)
  rw [Memory.userView, hnone]
  rfl

lemma userView_eq_some {address : UserVirtualAddress} :
  memory.userView mapper address.asU64 = some byte ↔ pageSize ≤ address.asU64 ∧
    (∀ page : UserPageStart, page.asU64 ≤ address.asU64 → address.asU64 < page.asU64 + pageSize →
      isPageMappedWithFlags mapper memory memory.activeLevel4Frame page { noExecute := true } =
        true) ∧
    memory.userByte mapper address.asU64 = byte := by
  have hle : address.asU64 + 1 ≤ userSpaceEnd := address.lt_end
  have hrg : new address 1 = some ⟨address, 1, one_pos, hle⟩ := dif_pos ⟨one_pos, hle⟩
  rw [userView_eq, copyUserByte, hrg, bind_some, isUserRangeMappedReadable]
  have hiff := validateUserMapping_eq_true_iff mapper memory memory.activeLevel4Frame
    ⟨address, 1, one_pos, hle⟩ { noExecute := true }
  rw [touchesPageZero_iff, not_lt] at hiff
  have hmeet : ∀ page : UserPageStart, (⟨address, 1, one_pos, hle⟩ : UserVirtualRange).MeetsPage
    page.asU64 ↔ page.asU64 ≤ address.asU64 ∧ address.asU64 < page.asU64 + pageSize := fun page
      => ⟨fun h => ⟨le_of_lt_succ h.2.1, h.2.2⟩, fun h => ⟨page.asU64_mod, lt_succ_of_le h.1, h.2⟩⟩
  simp only [hmeet, and_imp] at hiff
  split_ifs with hvalid
  · have hpages := hiff.1 hvalid
    rw [Option.some.injEq]
    exact ⟨fun hbyte => ⟨hpages.1, hpages.2, hbyte⟩, fun h => h.2.2⟩
  · refine iff_of_false (fun h => by cases h) fun h => hvalid (hiff.2 ⟨h.1, h.2.1⟩)

lemma isUserRangeMappedReadable_iff (range : UserReadableRange) :
  isUserRangeMappedReadable mapper memory range = true ↔
    ∀ i < range.asRange.byteLen, memory.userView mapper (range.asRange.start.asU64 + i) =
      some (memory.userByte mapper (range.asRange.start.asU64 + i)) := by
  obtain ⟨range⟩ := range
  have hend := range.le_end
  have hpos := range.pos
  have hst := Nat.pos_of_ne_zero range.start.ne_zero
  rw [isUserRangeMappedReadable, validateUserMapping_eq_true_iff, touchesPageZero_iff, Nat.not_lt]
  dsimp only
  constructor
  · rintro ⟨_, hpages⟩ i hi
    obtain ⟨address, haddr⟩ : ∃ address : UserVirtualAddress,
      address.asU64 = range.start.asU64 + i := ⟨⟨range.start.asU64 + i, by omega, by omega⟩, rfl⟩
    rw [← haddr, userView_eq_some]
    refine ⟨by omega, fun page hlow hhigh => hpages page ⟨page.asU64_mod, ?_, by omega⟩, rfl⟩
    rw [endExclusive]
    omega
  intro hbytes
  have hfirst := hbytes 0 hpos
  rw [Nat.add_zero, userView_eq_some] at hfirst
  refine ⟨hfirst.1, fun page hpage => ?_⟩
  -- a byte of the range on the page
  obtain ⟨-, hlow, _⟩ := hpage
  rw [endExclusive] at hlow
  obtain ⟨i, hi, hbelow, habove⟩ : ∃ i < range.byteLen, page.asU64 ≤ range.start.asU64 + i ∧
    range.start.asU64 + i < page.asU64 + pageSize := by
    have hsize : 0 < pageSize := by decide
    exact ⟨page.asU64 - range.start.asU64, by omega, by omega, by omega⟩
  obtain ⟨address, haddr⟩ : ∃ address : UserVirtualAddress,
    address.asU64 = range.start.asU64 + i := ⟨⟨range.start.asU64 + i, by omega, by omega⟩, rfl⟩
  have hbyte := hbytes i hi
  rw [← haddr, userView_eq_some] at hbyte
  exact hbyte.2.1 page (haddr ▸ hbelow) (haddr ▸ habove)

lemma userByte_of_userView (h : memory.userView mapper address = some byte) :
  memory.userByte mapper address = byte := by
  obtain ⟨_, huser, -⟩ := bind_eq_some_iff.1 h
  rw [← UserVirtualAddress.new_eq_some.1 huser] at h ⊢
  exact (userView_eq_some.1 h).2.2

lemma copyFromUser_eq (range : UserReadableRange) :
    copyFromUser mapper memory range =
      (List.range range.asRange.byteLen).mapM fun i => memory.userView mapper
        (range.asRange.start.asU64 + i) := by
  rw [copyFromUser]
  split_ifs with hrd
  · rw [isUserRangeMappedReadable_iff] at hrd
    refine (mapM_eq_some_map fun i hi => ?_).symm
    exact hrd i (mem_range.1 hi)
  rw [isUserRangeMappedReadable_iff] at hrd
  simp only [not_forall] at hrd
  obtain ⟨i, hi, hne⟩ := hrd
  refine (mapM_eq_none (mem_range.2 hi) ?_).symm
  cases hview : memory.userView mapper (range.asRange.start.asU64 + i) with
  | none => rfl
  | some _ => exact absurd (by rw [hview, userByte_of_userView hview]) hne

lemma slot_userView (address : ℕ) :
    (memory.userView mapper).slot address =
      ((UserReadableRange.fromSyscallArguments address 8).bind (copyFromUser mapper memory)).map
        fromBytes := by
  rw [View.slot]
  congr 1
  rw [UserReadableRange.fromSyscallArguments, fromSyscallArguments]
  cases hst : UserVirtualAddress.new address with
  | none =>
    refine mapM_eq_none (mem_range.2 (by decide : 0 < 8)) ?_
    rw [add_zero, Memory.userView, hst]
    rfl
  | some _ =>
    have hval := UserVirtualAddress.new_eq_some.1 hst
    rw [bind_some, new]
    split_ifs with hfits
    · rw [map_some, bind_some, copyFromUser_eq]
      dsimp only
      rw [hval]
    · refine mapM_eq_none (mem_range.2 (by decide : 7 < 8)) (userView_eq_none ?_)
      omega

end Bytes

section Strings
variable {mapper : PageMapper} {memory : Memory} {start : UserVirtualAddress}
  {remaining offset : ℕ}

lemma copyCstrFrom_succ (hlt : start.asU64 + offset < userSpaceEnd) :
    copyCstrFrom mapper memory start (remaining + 1) offset =
      (memory.userView mapper (start.asU64 + offset)).bind fun byte => if byte = 0 then some [] else
        (copyCstrFrom mapper memory start remaining (offset + 1)).map (byte :: ·) := by
  have hword : start.asU64 + offset < wordSize := lt_trans hlt (by decide)
  rw [copyCstrFrom, UserVirtualAddress.checkedAdd, checkedAdd_eq_some.2 ⟨hword, rfl⟩,
    bind_some, Memory.userView, bind_assoc]

lemma View.PlainUpTo.cons {view : View} {address length : ℕ} {byte : UInt8}
  (hbyte : view address = some byte) (hne : byte ≠ 0)
  (h : view.PlainUpTo (address + 1) length) : view.PlainUpTo address (length + 1) := by
  intro i _
  cases i with
  | zero => exact ⟨byte, hbyte, hne⟩
  | succ i =>
    rw [← add_assoc, add_right_comm]
    exact h i (by omega)

lemma copyCstrFrom_spec (hfits : start.asU64 + offset + remaining ≤ userSpaceEnd) :
    (∃ value,
      copyCstrFrom mapper memory start remaining offset = some value ∧
      (memory.userView mapper).HasString remaining (start.asU64 + offset) value) ∨
    copyCstrFrom mapper memory start remaining offset = none ∧
    (memory.userView mapper).NoString remaining (start.asU64 + offset) := by
  induction remaining generalizing offset with
  | zero => exact .inr ⟨rfl, .inr fun i hi => absurd hi (not_lt_zero i)⟩
  | succ remaining ih =>
    rw [copyCstrFrom_succ (by omega)]
    cases hview : memory.userView mapper (start.asU64 + offset) with
    | none =>
      refine .inr ⟨rfl, .inl ⟨0, succ_pos _, fun i hi => absurd hi (not_lt_zero i), ?_⟩⟩
      exact hview
    | some byte =>
      rw [bind_some]
      by_cases hbyte : byte = 0
      · subst hbyte
        exact .inl ⟨[], if_pos rfl, succ_pos _, fun i b h => (by cases h), not_mem_nil, hview⟩
      rw [if_neg hbyte]
      have hnext : start.asU64 + (offset + 1) = start.asU64 + offset + 1 := rfl
      have hfits' : start.asU64 + (offset + 1) + remaining ≤ userSpaceEnd := by omega
      rcases ih hfits' with ⟨value, hval, hstr⟩ | ⟨hnone, hno⟩
      · rw [hnext] at hstr
        refine .inl ⟨byte :: value, by rw [hval]; rfl, ?_, fun i b h => ?_, ?_, ?_⟩
        · exact succ_lt_succ hstr.length_lt
        · cases i with
          | zero =>
            cases h
            exact hview
          | succ i =>
            rw [← add_assoc, add_right_comm]
            exact hstr.byte_eq i b h
        · rw [mem_cons, not_or]
          exact ⟨fun hzero => hbyte hzero.symm, hstr.nul_notMem⟩
        · rw [length_cons, ← add_assoc, add_right_comm]
          exact hstr.terminated
      rw [hnext] at hno
      refine .inr ⟨by rw [hnone]; rfl, ?_⟩
      rcases hno with ⟨i, hi, hplain, hstop⟩ | hplain
      · refine .inl ⟨i + 1, succ_lt_succ hi, hplain.cons hview hbyte, ?_⟩
        rw [← add_assoc, add_right_comm]
        exact hstop
      · exact .inr (hplain.cons hview hbyte)

end Strings

/-! ### What a view determines -/

namespace View
variable {view view' : View} {window address : ℕ} {value : List UInt8}

lemma HasString.byte_ne (h : view.HasString window address value) (hi : i < value.length) :
  ∃ byte, view (address + i) = some byte ∧ byte ≠ 0 := by
  refine ⟨value[i], h.byte_eq i _ (getElem?_eq_getElem hi), fun hzero => h.nul_notMem ?_⟩
  rw [← hzero]
  exact getElem_mem hi

lemma HasString.length_le (h : view.HasString window address value)
  (h' : view.HasString window address value') : value'.length ≤ value.length := by
  by_contra hlt
  obtain ⟨_, hbyte, hne⟩ := h'.byte_ne (not_le.1 hlt)
  rw [h.terminated, Option.some.injEq] at hbyte
  exact hne hbyte.symm

lemma HasString.unique (h : view.HasString window address value)
  (h' : view.HasString window address value') : value = value' := by
  have hlen := le_antisymm (h'.length_le h) (h.length_le h')
  refine ext_getElem hlen fun i hi hi' => ?_
  have hbyte := h.byte_eq i _ (getElem?_eq_getElem hi)
  rw [h'.byte_eq i _ (getElem?_eq_getElem hi'), Option.some.injEq] at hbyte
  exact hbyte.symm

lemma HasString.not_noString (h : view.HasString window address value) :
  ¬ view.NoString window address := by
  rintro (⟨i, -, hplain, hstop⟩ | hplain)
  · rcases lt_trichotomy i value.length with hlt | rfl | hgt
    · obtain ⟨byte, hbyte, -⟩ := h.byte_ne hlt
      rw [hstop] at hbyte
      cases hbyte
    · rw [h.terminated] at hstop
      cases hstop
    · obtain ⟨byte, hbyte, hne⟩ := hplain _ hgt
      rw [h.terminated, Option.some.injEq] at hbyte
      exact hne hbyte.symm
  · obtain ⟨_, hbyte, hne⟩ := hplain _ h.length_lt
    rw [h.terminated, Option.some.injEq] at hbyte
    exact hne hbyte.symm

lemma HasString.congr (h : view.HasString window address value)
  (hagree : ∀ i ≤ value.length, view' (address + i) = view (address + i)) :
  view'.HasString window address value := by
  refine ⟨h.length_lt, fun i byte hbyte => ?_, h.nul_notMem, ?_⟩
  · obtain ⟨hi, -⟩ := List.getElem?_eq_some_iff.1 hbyte
    rw [hagree i hi.le]
    exact h.byte_eq i byte hbyte
  · rw [hagree _ (le_refl _)]
    exact h.terminated

lemma slot_congr (hagree : ∀ i < 8, view' (address + i) = view (address + i)) :
  view'.slot address = view.slot address := by
  rw [slot, slot]
  congr 1
  simp only [range_eq_range', List.range', mapM_cons, mapM_nil]
  rw [hagree 0 (by decide), hagree 1 (by decide), hagree 2 (by decide), hagree 3 (by decide),
    hagree 4 (by decide), hagree 5 (by decide), hagree 6 (by decide), hagree 7 (by decide)]

end View
end ManaOS
