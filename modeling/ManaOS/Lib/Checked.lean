/-
Unsigned 64-bit arithmetic on naturals below `wordSize`, and computations that may panic.

A panicking computation is an `Except String α`, with `bind_eq_ok` as its inversion rule.

* `checkedAdd`, `saturatingAdd`: the checked operations;
* `require_eq_ok`, `expect_eq_ok`: when a checked step returns.
-/
import Mathlib.Algebra.Order.BigOperators.Group.List
import Mathlib.Algebra.Order.Ring.Int
import Mathlib.Data.Nat.Notation
import Mathlib.Tactic.Common

namespace Checked

/-- The number of values of a 64-bit word. -/
def wordSize : ℕ := 2 ^ 64

def wordMax : ℕ := wordSize - 1

lemma wordSize_eq : wordSize = 18446744073709551616 := rfl

/-! ### Checked and saturating operations -/

/-- Addition, `none` when the sum does not fit a word. -/
def checkedAdd (a b : ℕ) : Option ℕ :=
  if a + b < wordSize then some (a + b) else none

/-- Subtraction, `none` below zero. -/
def checkedSub (a b : ℕ) : Option ℕ :=
  if b ≤ a then some (a - b) else none

/-- Multiplication, `none` when the product does not fit a word. -/
def checkedMul (a b : ℕ) : Option ℕ :=
  if a * b < wordSize then some (a * b) else none

/-- Addition clamped at the largest word. -/
def saturatingAdd (a b : ℕ) : ℕ := min (a + b) wordMax

lemma checkedAdd_eq_some : checkedAdd a b = some c ↔ a + b < wordSize ∧ c = a + b := by
  unfold checkedAdd
  split
  · next hfits =>
    rw [Option.some.injEq]
    exact ⟨fun heq => ⟨hfits, heq.symm⟩, fun hsum => hsum.2.symm⟩
  · next hfits => exact iff_of_false nofun fun hsum => hfits hsum.1

lemma checkedSub_eq_some : checkedSub a b = some c ↔ b ≤ a ∧ c = a - b := by
  unfold checkedSub
  split
  · next hle =>
    rw [Option.some.injEq]
    exact ⟨fun heq => ⟨hle, heq.symm⟩, fun hdiff => hdiff.2.symm⟩
  · next hle => exact iff_of_false nofun fun hdiff => hle hdiff.1

lemma checkedMul_eq_some : checkedMul a b = some c ↔ a * b < wordSize ∧ c = a * b := by
  unfold checkedMul
  split
  · next hfits =>
    rw [Option.some.injEq]
    exact ⟨fun heq => ⟨hfits, heq.symm⟩, fun hproduct => hproduct.2.symm⟩
  · next hfits => exact iff_of_false nofun fun hproduct => hfits hproduct.1

lemma saturatingAdd_of_lt (h : a + b < wordSize) : saturatingAdd a b = a + b := by
  rw [saturatingAdd, wordMax]
  omega

/-- Round down to a multiple of `n`: the mask `a & !(n - 1)` for a power of two. -/
def alignDown (a n : ℕ) : ℕ := a / n * n

/-- Round up to a multiple of `n`, `none` when `a + (n - 1)` overflows. -/
def alignUp (a n : ℕ) : Option ℕ :=
  (checkedSub n 1).bind fun mask => (checkedAdd a mask).map fun b => alignDown b n

lemma alignDown_le (a n : ℕ) : alignDown a n ≤ a := Nat.div_mul_le_self a n

lemma dvd_alignDown (a n : ℕ) : n ∣ alignDown a n := Nat.dvd_mul_left n _

lemma alignDown_of_dvd (h : n ∣ a) : alignDown a n = a := Nat.div_mul_cancel h

/-! ### Panicking computations -/

/-- A computation that ends in a panic message or in a value. -/
abbrev Panicking (α : Type) := Except String α

variable {α β : Type}

/-- The source's `assert!`: panic with the message unless the condition holds. -/
def require (condition : Bool) (message : String) : Panicking Unit :=
  if condition then .ok () else .error message

/-- The source's `Option::expect`. -/
def expect (value : Option α) (message : String) : Panicking α :=
  match value with
  | some a => .ok a
  | none => .error message

lemma bind_eq_ok {f : α → Except ε β} : (x >>= f) = .ok b ↔ ∃ a, x = .ok a ∧ f a = .ok b := by
  cases x with
  | error e => simp [bind, Except.bind]
  | ok a => simp [bind, Except.bind]

lemma bind_eq_error {f : α → Panicking β} :
  (x >>= f) = .error e ↔ x = .error e ∨ ∃ a, x = .ok a ∧ f a = .error e := by
  cases x with
  | error e => simp [bind, Except.bind]
  | ok a => simp [bind, Except.bind]

lemma map_eq_ok {x : Panicking α} {f : α → β} : x.map f = .ok b ↔ ∃ a, x = .ok a ∧ f a = b := by
  cases x with
  | error e => simp [Except.map]
  | ok a => simp [Except.map]

@[simp] lemma pure_eq (a : α) : (pure a : Panicking α) = .ok a := rfl

lemma require_pos {p : Prop} [Decidable p] (h : p) (message : String) :
  require p message = .ok () := by
  simp [require, h]

lemma require_neg {p : Prop} [Decidable p] (h : ¬ p) (message : String) :
  require p message = .error message := by
  simp [require, h]

lemma pure_eq_ok : (pure a : Panicking α) = .ok b ↔ a = b := by
  simp [pure, Except.pure]

@[simp] lemma ok_bind {f : α → Panicking β} : ((Except.ok a : Panicking α) >>= f) = f a := rfl

@[simp] lemma error_bind {f : α → Panicking β} :
  ((Except.error e : Panicking α) >>= f) = .error e := rfl

lemma require_eq_ok : require condition message = .ok u ↔ condition = true := by
  unfold require
  split <;> simp_all

@[simp] lemma expect_some (a : α) (message : String) : expect (some a) message = .ok a := rfl

lemma require_eq_error :
    require condition message = .error e ↔ condition = false ∧ e = message := by
  unfold require
  split <;> simp_all [eq_comm]

lemma expect_eq_error : expect value message = .error e ↔ value = none ∧ e = message := by
  unfold expect
  split <;> simp_all [eq_comm]

lemma expect_eq_ok : expect value message = .ok a ↔ value = some a := by
  unfold expect
  split <;> simp_all

end Checked
