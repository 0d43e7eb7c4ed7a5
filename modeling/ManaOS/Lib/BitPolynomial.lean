/-
Words as polynomials over the field of two elements.

* `reflected_injective`, `X_mul_reflected`: a word is its polynomial, and a shift a multiplication.
-/
import Mathlib.Algebra.CharP.Two
import Mathlib.Algebra.Field.ZMod
import Mathlib.Algebra.Polynomial.Degree.Operations

namespace BitPolynomial
open Polynomial Finset
variable {w : ℕ}

/-- The polynomial whose coefficients are the bits of a word. -/
noncomputable def ofWord (x : BitVec w) : (ZMod 2)[X] :=
  ∑ i ∈ range w, if x.getLsbD i then X ^ i else 0

/-- The polynomial of a word whose high end is its low end. -/
noncomputable def reflected (x : BitVec w) : (ZMod 2)[X] := ofWord x.reverse

lemma coeff_reflected (x : BitVec w) (i : ℕ) :
  (reflected x).coeff i = if x.getMsbD i then 1 else 0 := by
  have hterm : ∀ j, (if x.getMsbD j then X ^ j else 0 : (ZMod 2)[X]).coeff i =
    if i = j then if x.getMsbD i then 1 else 0 else 0 := by
    intro j
    rw [apply_ite (coeff · i), coeff_X_pow, coeff_zero]
    by_cases hj : i = j
    · subst hj
      rw [if_pos rfl, if_pos rfl]
    · rw [if_neg hj, if_neg hj, ite_self]
  simp only [reflected, ofWord, finsetSum_coeff, BitVec.getLsbD_reverse, hterm, sum_ite_eq]
  split_ifs with hi hbit hbit
  · rfl
  · rfl
  · rw [x.getMsbD_of_ge i (by simpa using hi)] at hbit
    cases hbit
  · rfl

lemma reflected_injective : Function.Injective (reflected (w := w)) := by
  intro x y h
  refine BitVec.eq_of_getMsbD_eq fun i _ => ?_
  have hcoeff := congrArg (coeff · i) h
  simp only [coeff_reflected] at hcoeff
  revert hcoeff
  cases x.getMsbD i <;> cases y.getMsbD i <;> decide

lemma degree_reflected_lt (x : BitVec w) : (reflected x).degree < w := by
  refine (degree_lt_iff_coeff_zero _ _).2 fun i hi => ?_
  rw [coeff_reflected, x.getMsbD_of_ge i hi]
  rfl

lemma reflected_xor (x y : BitVec w) : reflected (x ^^^ y) = reflected x + reflected y := by
  ext i
  rw [coeff_add, coeff_reflected, coeff_reflected, coeff_reflected, BitVec.getMsbD_xor]
  cases x.getMsbD i <;> cases y.getMsbD i <;> decide

lemma reflected_zero : reflected 0#w = 0 := by
  ext i
  simp [coeff_reflected]

lemma X_mul_reflected (x : BitVec (w + 1)) :
  X * reflected x = reflected (x >>> 1) + if x.getLsbD 0 then X ^ (w + 1) else 0 := by
  ext i
  rw [coeff_add, coeff_reflected, BitVec.getMsbD_ushiftRight]
  cases i with
  | zero =>
    rw [coeff_X_mul_zero]
    cases x.getLsbD 0 <;> simp [coeff_X_pow]
  | succ i =>
    rw [coeff_X_mul, coeff_reflected, Nat.add_sub_cancel]
    rcases Nat.lt_trichotomy i w with hi | rfl | hi
    · cases x.getLsbD 0 <;> simp [coeff_X_pow, hi, hi.ne]
    · have hlast : x.getMsbD i = x.getLsbD 0 := by simp [BitVec.getMsbD_eq_getLsbD]
      rw [hlast]
      cases x.getLsbD 0 <;> simp
    · rw [x.getMsbD_of_ge i hi]
      cases x.getLsbD 0 <;> simp [coeff_X_pow, hi.ne']

lemma reflected_setWidth (x : BitVec w) (n : ℕ) :
  reflected (x.setWidth (n + w)) = X ^ n * reflected x := by
  ext i
  rw [coeff_X_pow_mul', coeff_reflected, coeff_reflected, BitVec.getMsbD_setWidth,
    Nat.add_sub_add_right]
  by_cases hi : n ≤ i <;> simp [hi]

end BitPolynomial
