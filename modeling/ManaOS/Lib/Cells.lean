/-
Memories of cells: reading runs of them, and changes outside a run.

* `reads_congr`, `AgreeOutside.reads_eq`: a run reads the same where no cell of it has changed.
-/
import Mathlib.Data.List.Basic
import Mathlib.Tactic.Common

namespace Cells
variable {β : Type*} {mem mem' mem'' : ℕ → β} {start stop : ℕ}

/-- The `n` cells from `start` on. -/
def reads (mem : ℕ → β) (start n : ℕ) : List β := (List.range n).map fun i => mem (start + i)

@[simp] lemma length_reads (mem : ℕ → β) (start n : ℕ) : (reads mem start n).length = n := by
  rw [reads, List.length_map, List.length_range]

lemma getElem?_reads (mem : ℕ → β) (start : ℕ) {n i : ℕ} (h : i < n) :
  (reads mem start n)[i]? = some (mem (start + i)) := by
  rw [reads, List.getElem?_map, List.getElem?_range h]
  rfl

lemma reads_add (mem : ℕ → β) (start n k : ℕ) :
  reads mem start (n + k) = reads mem start n ++ reads mem (start + n) k := by
  simp only [reads, List.range_add, List.map_append, List.map_map, Function.comp_def, Nat.add_assoc]

lemma reads_congr {n : ℕ} (h : ∀ i < n, mem' (start + i) = mem (start + i)) : reads mem' start n =
  reads mem start n := List.map_congr_left fun i hi => h i (List.mem_range.1 hi)

/-- The cells before `start` and from `stop` on are the same. -/
def AgreeOutside (mem mem' : ℕ → β) (start stop : ℕ) : Prop :=
  ∀ a, a < start ∨ stop ≤ a → mem' a = mem a

lemma AgreeOutside.refl (mem : ℕ → β) (start stop : ℕ) : AgreeOutside mem mem start stop :=
  fun _ _ => rfl

lemma AgreeOutside.mono (h : AgreeOutside mem mem' start stop) {start' stop' : ℕ}
  (hst : start' ≤ start) (hstop : stop ≤ stop') : AgreeOutside mem mem' start' stop' :=
  fun a ha => h a (by omega)

lemma AgreeOutside.trans (h : AgreeOutside mem mem' start stop)
  (h' : AgreeOutside mem' mem'' start stop) : AgreeOutside mem mem'' start stop :=
  fun a ha => (h' a ha).trans (h a ha)

lemma AgreeOutside.reads_eq (h : AgreeOutside mem mem' start stop) {s n : ℕ}
  (hapart : s + n ≤ start ∨ stop ≤ s) : reads mem' s n = reads mem s n :=
  reads_congr fun i hi => h _ (by omega)

end Cells
