/-
Consecutive slices of a list: slices of one width tile it, blocks of one length keep theirs.

* `flatMap_slice`, `slice_flatMap`: the slices of a list, and a slice of blocks.
-/
import Mathlib.Data.List.Range
import Mathlib.Data.Nat.Notation
import Mathlib.Tactic.Common

namespace Slices
open List
variable {α β : Type}

/-- The elements from a position on, as many as asked for. -/
def slice (l : List α) (start size : ℕ) : List α := (l.drop start).take size

lemma length_slice (h : start + size ≤ l.length) : (slice l start size).length = size := by
  rw [slice, length_take, length_drop]
  omega

lemma slice_take (h : start + size ≤ n) : slice (l.take n) start size = slice l start size := by
  rw [slice, slice, drop_take, take_take, Nat.min_eq_left (by omega)]

lemma take_slice (h : n ≤ size) : (slice l start size).take n = slice l start n := by
  rw [slice, slice, take_take, Nat.min_eq_left h]

lemma slice_replicate_append {a : α} (h : start + size ≤ n) :
  slice (replicate n a ++ l) start size = replicate size a := by
  rw [slice, drop_append_of_le_length (by rw [length_replicate]; omega), drop_replicate,
    take_append_of_le_length (by rw [length_replicate]; omega), take_replicate,
    Nat.min_eq_left (by omega)]

lemma flatMap_slice (l : List α) (size n : ℕ) :
  (range n).flatMap (fun k => slice l (k * size) size) = l.take (n * size) := by
  induction n with
  | zero => rw [Nat.zero_mul, take_zero, range_zero, flatMap_nil]
  | succ n ih =>
    rw [range_succ, flatMap_append, ih, flatMap_singleton, slice, Nat.succ_mul, take_add]

lemma length_flatMap_blocks {f : ℕ → List α} (h : ∀ k < n, (f k).length = block) :
  ((range n).flatMap f).length = n * block := by
  induction n with
  | zero => rw [Nat.zero_mul, range_zero, flatMap_nil, length_nil]
  | succ n ih =>
    rw [range_succ, flatMap_append, length_append, ih fun k hk => h k (by omega),
      flatMap_singleton, h n (by omega), Nat.succ_mul]

lemma slice_flatMap {f : ℕ → List α} (h : ∀ j < n, (f j).length = block) (hk : k < n)
  (hfits : start + size ≤ block) :
  slice ((range n).flatMap f) (k * block + start) size = slice (f k) start size := by
  induction n with
  | zero => omega
  | succ n ih =>
    have hfront := length_flatMap_blocks fun j (hj : j < n) => h j (by omega)
    rw [range_succ, flatMap_append, flatMap_singleton]
    rcases Nat.lt_or_eq_of_le (Nat.le_of_lt_succ hk) with hlt | rfl
    · have hend : k * block + block ≤ n * block := by
        rw [← Nat.succ_mul]
        exact Nat.mul_le_mul_right _ hlt
      rw [← ih (fun j hj => h j (by omega)) hlt, slice, slice,
        drop_append_of_le_length (by omega), take_append_of_le_length]
      rw [length_drop]
      omega
    · rw [slice, slice, ← hfront, drop_length_add_append]

lemma flatMap_chunks (g : ℕ → β) (count width n : ℕ) :
    (range n).flatMap
      (fun k => (range (min (count - k * width) width)).map fun i => g (k * width + i)) =
      (range (min count (n * width))).map g := by
  induction n with
  | zero => rw [Nat.zero_mul, Nat.min_zero, range_zero, map_nil, flatMap_nil]
  | succ n ih =>
    rw [range_succ, flatMap_append, ih, flatMap_singleton]
    have hsplit : min count ((n + 1) * width) =
      min count (n * width) + min (count - n * width) width := by
      rw [Nat.succ_mul]
      omega
    rw [hsplit, range_add, map_append, map_map]
    congr 1
    refine map_congr_left fun i hi => congrArg g ?_
    rw [mem_range] at hi
    dsimp only
    omega

end Slices
