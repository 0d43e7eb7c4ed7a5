/-
Lines on the screen (`GraphicsDriver::draw_line` in `driver/display/framebuffer.rs`).

The error term is a function of the steps taken, and small as the longer extent always advances.

* `Tracks.step_long`: a step keeps the point within half a pixel;
* `draw_line_traces` (**the line**): where and how the points go.
-/
import ManaOS.Lib.Checked

namespace ManaOS
open Checked

/-- The result of an `i32` operation. -/
def checkedI32 (value : ℤ) : Panicking ℤ :=
  if -2 ^ 31 ≤ value ∧ value < 2 ^ 31 then .ok value else .error "attempt to overflow an i32"

/-- An `if` of the loop with its two updates. -/
def stepIf (taken : Bool) (err delta position direction : ℤ) : Panicking (ℤ × ℤ) :=
  if taken then do return (← checkedI32 (err + delta), ← checkedI32 (position + direction))
  else return (err, position)

/-- The points of the loop's turns; `put_pixel` is called for those that are not negative. -/
def drawLineLoop (x2 y2 dx dy sx sy : ℤ) : (fuel : ℕ) → (x y err : ℤ) → Panicking (List (ℤ × ℤ))
  | 0, _, _, _ => .error "out of fuel"
  | fuel + 1, x, y, err =>
    if x = x2 ∧ y = y2 then return [(x, y)]
    else do
      let e2 ← checkedI32 (2 * err)
      let (err', x') ← stepIf (dy ≤ e2) err dy x sx
      let (err', y') ← stepIf (e2 ≤ dx) err' dx y sy
      return (x, y) :: (← drawLineLoop x2 y2 dx dy sx sy fuel x' y' err')

def drawLine (fuel : ℕ) (x1 y1 x2 y2 : ℤ) : Panicking (List (ℤ × ℤ)) := do
  let dx ← checkedI32 (← checkedI32 (x2 - x1)).natAbs
  let dy ← checkedI32 (-(← checkedI32 (← checkedI32 (y2 - y1)).natAbs))
  let sx := if x1 < x2 then 1 else -1
  let sy := if y1 < y2 then 1 else -1
  drawLineLoop x2 y2 dx dy sx sy fuel x1 y1 (← checkedI32 (dx + dy))

lemma checkedI32_eq_ok {value : ℤ} (h : value.natAbs < 2 ^ 31) : checkedI32 value = .ok value :=
  if_pos (by omega)

lemma stepIf_eq {taken : Bool} {err delta position direction : ℤ}
  (herr : (err + delta).natAbs < 2 ^ 31) (hpos : (position + direction).natAbs < 2 ^ 31) :
  stepIf taken err delta position direction =
    .ok (if taken then err + delta else err, if taken then position + direction else position) := by
  rw [stepIf, checkedI32_eq_ok herr, checkedI32_eq_ok hpos]
  cases taken <;> rfl

/-- A coordinate stays, or it moves by one towards its target. -/
def MovesToward (target old new : ℤ) : Prop :=
  new = old ∨ (new - old).natAbs = 1 ∧ (target - new).natAbs + 1 = (target - old).natAbs

/-- The points go from one end to the other in steps towards it, within half a pixel of the ideal
line along the minor axis (multiplied by the major extent). -/
structure TracesLine (x1 y1 x2 y2 : ℤ) (points : List (ℤ × ℤ)) : Prop where
  head_eq : points.head? = some (x1, y1)
  last_eq : points.getLast? = some (x2, y2)
  toward : points.IsChain fun p q => MovesToward x2 p.1 q.1 ∧ MovesToward y2 p.2 q.2
  near : ∀ p ∈ points, 2 * ((p.2 - y1) * (x2 - x1) - (p.1 - x1) * (y2 - y1)).natAbs ≤
    max (x2 - x1).natAbs (y2 - y1).natAbs

/-- After `i` and `j` steps the point is within half a pixel along the shorter extent. -/
structure Tracks (width height i j : ℤ) : Prop where
  i_nonneg : 0 ≤ i
  j_nonneg : 0 ≤ j
  i_le : i ≤ width
  j_le : j ≤ height
  near : -max width height ≤ 2 * (i * height - j * width) ∧
    2 * (i * height - j * width) ≤ max width height

lemma le_of_near {long short i j : ℤ} (hlong : 0 < long) (hi : i ≤ long) (hshort : 0 ≤ short)
  (h : -long ≤ 2 * (i * short - j * long)) : j ≤ short := by
  by_contra hj
  have hend : (short + 1) * long ≤ j * long := Int.mul_le_mul_of_nonneg_right (by omega) hlong.le
  have hpos : i * short ≤ long * short := Int.mul_le_mul_of_nonneg_right hi hshort
  rw [Int.add_mul, Int.mul_comm short] at hend
  omega

lemma eq_of_near {long short j : ℤ} (hlong : 0 < long)
  (h : 2 * (long * short - j * long) ≤ long) : short ≤ j := by
  by_contra hj
  have hend : j * long ≤ (short - 1) * long := Int.mul_le_mul_of_nonneg_right (by omega) hlong.le
  rw [Int.sub_mul, Int.mul_comm short] at hend
  omega

/-- The error term after `i` and `j` steps. -/
def lineError (width height i j : ℤ) : ℤ := (j + 1) * width - (i + 1) * height

namespace Tracks
variable {width height i j : ℤ}

lemma swap (h : Tracks width height i j) : Tracks height width j i := by
  refine ⟨h.j_nonneg, h.i_nonneg, h.j_le, h.i_le, ?_⟩
  have hnear := h.near
  rw [max_comm] at hnear
  omega

lemma step_long (h : Tracks width height i j) (hlong : height ≤ width)
  (hend : ¬ (i = width ∧ j = height)) : -height ≤ 2 * lineError width height i j ∧
  Tracks width height (i + 1)
    (if 2 * lineError width height i j ≤ width then j + 1 else j) := by
  obtain ⟨_, hj, hile, hjle, hnear⟩ := h
  rw [max_eq_left hlong] at hnear
  have hwidth : 0 < width := by omega
  have hlt : i < width := by
    refine hile.lt_of_ne fun heq => hend ⟨heq, ?_⟩
    subst heq
    exact Int.le_antisymm hjle (eq_of_near hwidth hnear.2)
  have herr : lineError width height i j = j * width + width - (i * height + height) := by
    rw [lineError, Int.add_mul, Int.add_mul, Int.one_mul, Int.one_mul]
  rw [herr]
  have hnext : ∀ j', -width ≤ 2 * ((i + 1) * height - j' * width) →
    2 * ((i + 1) * height - j' * width) ≤ width → 0 ≤ j' → Tracks width height (i + 1) j' := by
    intro _ hlow hhigh hnonneg
    refine ⟨by omega, hnonneg, hlt, le_of_near hwidth hlt (hj.trans hjle) hlow, ?_⟩
    rw [max_eq_left hlong]
    exact ⟨hlow, hhigh⟩
  refine ⟨by omega, ?_⟩
  split
  · refine hnext _ ?_ ?_ (by omega) <;> rw [Int.add_mul, Int.add_mul] <;> omega
  · refine hnext _ ?_ ?_ hj <;> rw [Int.add_mul] <;> omega

lemma lineError_swap : lineError height width j i = -lineError width height i j := by
  rw [lineError, lineError]
  omega

lemma step (h : Tracks width height i j) (hend : ¬ (i = width ∧ j = height)) :
  let i' := if -height ≤ 2 * lineError width height i j then i + 1 else i
  let j' := if 2 * lineError width height i j ≤ width then j + 1 else j
  Tracks width height i' j' ∧ (if height ≤ width then i' = i + 1 else j' = j + 1) := by
  intro i' j'
  by_cases hlong : height ≤ width
  · obtain ⟨htaken, hnext⟩ := h.step_long hlong hend
    rw [if_pos hlong]
    exact ⟨by simpa only [i', if_pos htaken] using hnext, if_pos htaken⟩
  obtain ⟨htaken, hnext⟩ := h.swap.step_long (by omega) (fun heq => hend heq.symm)
  rw [lineError_swap] at htaken hnext
  have hi : i' = if 2 * -lineError width height i j ≤ height then i + 1 else i := by
    simp only [i']
    split <;> split <;> omega
  have hj : j' = j + 1 := if_pos (by omega)
  rw [if_neg hlong, hj, hi]
  exact ⟨hnext.swap, rfl⟩

lemma finished (h : Tracks width height i j)
  (hrem : (if height ≤ width then width - i else height - j) = 0) : i = width ∧ j = height := by
  by_contra hend
  obtain ⟨hnext, hstep⟩ := h.step hend
  have hile := hnext.i_le
  have hjle := hnext.j_le
  split at hrem
  · rw [if_pos ‹_›] at hstep
    omega
  · rw [if_neg ‹_›] at hstep
    omega

lemma lineError_step (p q : Prop) [Decidable p] [Decidable q] :
    (if q then (if p then lineError width height i j + -height else lineError width height i j) +
       width else if p then lineError width height i j + -height else lineError width height i j) =
      lineError width height (if p then i + 1 else i) (if q then j + 1 else j) := by
  rw [lineError, lineError]
  split_ifs <;> simp only [Int.add_mul, Int.one_mul] <;> omega

lemma lineError_lt (h : Tracks width height i j) (hwidth : width < 2 ^ 29)
  (hheight : height < 2 ^ 29) : (lineError width height i j).natAbs < 3 * 2 ^ 28 := by
  have hnear := h.near
  have hi := h.i_nonneg.trans h.i_le
  have hj := h.j_nonneg.trans h.j_le
  rw [lineError, Int.add_mul, Int.add_mul]
  omega

end Tracks

section Axis
variable {start extent sign i : ℤ} (hsign : sign = 1 ∨ sign = -1)
include hsign

lemma axis_lt (hi : 0 ≤ i) (hle : i ≤ extent) (hstart : start.natAbs < 2 ^ 28)
  (hstop : (start + extent * sign).natAbs < 2 ^ 28) : (start + i * sign).natAbs < 2 ^ 28 := by
  rcases hsign with rfl | rfl <;> omega

lemma axis_eq_iff : start + i * sign = start + extent * sign ↔ i = extent := by
  rcases hsign with rfl | rfl <;> omega

omit hsign in
lemma axis_step (taken : Prop) [Decidable taken] :
  (if taken then start + i * sign + sign else start + i * sign) =
    start + (if taken then i + 1 else i) * sign := by
  split
  · rw [Int.add_mul, Int.one_mul, Int.add_assoc]
  · rfl

lemma axis_moves {taken : Prop} [Decidable taken] (hle : (if taken then i + 1 else i) ≤ extent) :
  MovesToward (start + extent * sign) (start + i * sign)
    (start + (if taken then i + 1 else i) * sign) := by
  rw [MovesToward]
  split at hle
  · right
    rw [if_pos ‹_›]
    rcases hsign with rfl | rfl <;> omega
  · exact .inl (by rw [if_neg ‹_›])

end Axis

section Loop
variable {x1 y1 sx sy width height : ℤ} (hsx : sx = 1 ∨ sx = -1) (hsy : sy = 1 ∨ sy = -1)
  (hx1 : x1.natAbs < 2 ^ 28) (hy1 : y1.natAbs < 2 ^ 28)
  (hx2 : (x1 + width * sx).natAbs < 2 ^ 28) (hy2 : (y1 + height * sy).natAbs < 2 ^ 28)
include hsx hsy
variable (x1 y1) in
lemma Tracks.near_point (h : Tracks width height i j) :
    2 *
      ((y1 + j * sy - y1) * (x1 + width * sx - x1) - (x1 + i * sx - x1) * (y1 + height * sy -
        y1)).natAbs ≤
      max (x1 + width * sx - x1).natAbs (y1 + height * sy - y1).natAbs := by
  have hnear := h.near
  have hwidth := h.i_nonneg.trans h.i_le
  have hheight := h.j_nonneg.trans h.j_le
  rcases hsx with rfl | rfl <;> rcases hsy with rfl | rfl <;>
    simp only [add_sub_cancel_left, mul_one, mul_neg, neg_mul, neg_neg] <;> omega

include hx1 hy1 hx2 hy2

lemma drawLineLoop_traces (h : Tracks width height i j) (remaining : ℕ)
    (hrem : (remaining : ℤ) = if height ≤ width then width - i else height - j)
    (hfuel : remaining < fuel) :
    ∃ points,
      drawLineLoop (x1 + width * sx) (y1 + height * sy) width (-height) sx sy fuel (x1 + i * sx)
        (y1 + j * sy) (lineError width height i j) =
        .ok points ∧
      points.length = remaining + 1 ∧
      points.head? = some (x1 + i * sx, y1 + j * sy) ∧
      points.getLast? = some (x1 + width * sx, y1 + height * sy) ∧
      (points.IsChain fun p q => MovesToward (x1 + width * sx) p.1 q.1 ∧ MovesToward
         (y1 + height * sy) p.2 q.2) ∧
      ∀ p ∈ points, ∃ i j, Tracks width height i j ∧ p = (x1 + i * sx, y1 + j * sy) := by
  obtain ⟨fuel, rfl⟩ : ∃ n, fuel = n + 1 := ⟨fuel - 1, by omega⟩
  induction remaining generalizing i j fuel with
  | zero =>
    obtain ⟨rfl, rfl⟩ := h.finished hrem.symm
    refine ⟨_, if_pos ⟨rfl, rfl⟩, rfl, rfl, rfl, .singleton _, fun p hp => ?_⟩
    exact ⟨_, _, h, List.mem_singleton.1 hp⟩
  | succ _ ih =>
    have hend : ¬ (i = width ∧ j = height) := by
      rintro ⟨rfl, rfl⟩
      split at hrem <;> omega
    obtain ⟨fuel, rfl⟩ : ∃ n, fuel = n + 1 := ⟨fuel - 1, by omega⟩
    obtain ⟨hnext, _⟩ := h.step hend
    have hwidth : width < 2 ^ 29 := by rcases hsx with rfl | rfl <;> omega
    have hheight : height < 2 ^ 29 := by rcases hsy with rfl | rfl <;> omega
    have herr := h.lineError_lt hwidth hheight
    have hjle := h.j_nonneg.trans h.j_le
    have hile := h.i_nonneg.trans h.i_le
    have hx := axis_lt hsx h.i_nonneg h.i_le hx1 hx2
    have hy := axis_lt hsy h.j_nonneg h.j_le hy1 hy2
    have hxmoves : MovesToward (x1 + width * sx) (x1 + i * sx) _ := axis_moves hsx hnext.i_le
    have hymoves : MovesToward (y1 + height * sy) (y1 + j * sy) _ := axis_moves hsy hnext.j_le
    obtain ⟨_, hrun, hlen, hhead, hlast, hchain, hall⟩ :=
      ih hnext (by split at hrem <;> simp_all <;> omega) fuel (by omega)
    obtain ⟨_, rfl⟩ := List.head?_eq_some_iff.1 hhead
    refine ⟨(x1 + i * sx, y1 + j * sy) :: _, ?_, by rw [List.length_cons, hlen], rfl, ?_,
      .cons_cons ⟨hxmoves, hymoves⟩ hchain, ?_⟩
    · rw [drawLineLoop, if_neg (fun heq => hend ⟨(axis_eq_iff hsx).1 heq.1, (axis_eq_iff hsy).1
        heq.2⟩), checkedI32_eq_ok (by omega), ok_bind,
        stepIf_eq (by omega) (by rcases hsx with rfl | rfl <;> omega), ok_bind]
      dsimp only
      rw [stepIf_eq (by split <;> omega) (by rcases hsy with rfl | rfl <;> omega), ok_bind]
      simp only [decide_eq_true_eq]
      rw [axis_step, axis_step, Tracks.lineError_step, hrun]
      rfl
    · rw [List.getLast?_cons_cons]
      exact hlast
    · intro p hp
      rcases List.mem_cons.1 hp with rfl | hp
      · exact ⟨i, j, h, rfl⟩
      · exact hall p hp

end Loop

lemma exists_direction (a b : ℤ) : ∃ s : ℤ, (s = 1 ∨ s = -1) ∧ (if a < b then 1 else -1) = s ∧
  b = a + (b - a).natAbs * s := by
  by_cases hlt : a < b
  · exact ⟨1, .inl rfl, if_pos hlt, by omega⟩
  · exact ⟨-1, .inr rfl, if_neg hlt, by omega⟩

/-- **The points of `draw_line`.** -/
theorem draw_line_traces (x1 y1 x2 y2 : ℤ) (fuel : ℕ) (hx1 : x1.natAbs < 2 ^ 28)
  (hy1 : y1.natAbs < 2 ^ 28) (hx2 : x2.natAbs < 2 ^ 28) (hy2 : y2.natAbs < 2 ^ 28)
  (hfuel : max (x2 - x1).natAbs (y2 - y1).natAbs < fuel) :
  ∃ points, drawLine fuel x1 y1 x2 y2 = .ok points ∧
    points.length = max (x2 - x1).natAbs (y2 - y1).natAbs + 1 ∧ TracesLine x1 y1 x2 y2 points := by
  obtain ⟨_, hsx, hsx', hxend⟩ := exists_direction x1 x2
  obtain ⟨_, hsy, hsy', hyend⟩ := exists_direction y1 y2
  have htracks : Tracks (x2 - x1).natAbs (y2 - y1).natAbs 0 0 :=
    ⟨le_rfl, le_rfl, Int.natCast_nonneg _, Int.natCast_nonneg _, by omega⟩
  obtain ⟨points, hrun, hlen, hhead, hlast, hchain, hall⟩ := drawLineLoop_traces hsx hsy hx1 hy1
    (hxend ▸ hx2) (hyend ▸ hy2) htracks (max (x2 - x1).natAbs (y2 - y1).natAbs)
    (by split <;> omega) hfuel
  rw [← hxend, ← hyend] at hrun hlast hchain
  have hstart : ∀ a s : ℤ, a + 0 * s = a := fun a s => by rw [Int.zero_mul, Int.add_zero]
  rw [hstart, hstart] at hrun hhead
  refine ⟨points, ?_, hlen, hhead, hlast, hchain, fun p hp => ?_⟩
  · rw [drawLine, checkedI32_eq_ok (by omega), ok_bind, checkedI32_eq_ok (by omega), ok_bind,
      checkedI32_eq_ok (by omega), ok_bind, checkedI32_eq_ok (by omega), ok_bind,
      checkedI32_eq_ok (by omega), ok_bind, checkedI32_eq_ok (by omega), ok_bind, ← hrun, hsx',
      hsy']
    congr 1
    rw [lineError]
    omega
  · obtain ⟨i, j, h, rfl⟩ := hall p hp
    have hnear := h.near_point x1 y1 hsx hsy
    rwa [← hxend, ← hyend] at hnear

/-- A short line, drawn. -/
theorem draw_line_traces_short : ∃ points, drawLine 3 0 0 2 1 = .ok points ∧
  points.length = 3 ∧ TracesLine 0 0 2 1 points :=
  draw_line_traces 0 0 2 1 3 (by decide) (by decide) (by decide) (by decide) (by decide)

end ManaOS
