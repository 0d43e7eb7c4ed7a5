/-
How a computation may fail: `FailsOnly allowed x` bounds the messages with which `x` can end.

* `FailsOnly.bind`: a computation fails as one of its steps does.
-/
import ManaOS.Lib.Checked

namespace Checked
variable {α β : Type} {allowed : String → Prop}

/-- Every failure of the computation is an allowed one. -/
def FailsOnly (allowed : String → Prop) (x : Panicking α) : Prop :=
  ∀ message, x = .error message → allowed message

namespace FailsOnly

lemma ok (a : α) : FailsOnly allowed (.ok a : Panicking α) := fun _ h => by cases h

lemma pure (a : α) : FailsOnly allowed (Pure.pure a : Panicking α) := .ok a

lemma error (h : allowed message) : FailsOnly allowed (.error message : Panicking α) := by
  intro m hm
  cases hm
  exact h

lemma of_eq_ok (h : x = .ok a) : FailsOnly allowed x := by
  rw [h]
  exact .ok a

lemma bind {f : α → Panicking β} (hx : FailsOnly allowed x)
  (hf : ∀ a, x = .ok a → FailsOnly allowed (f a)) : FailsOnly allowed (x >>= f) := by
  intro message h
  rcases bind_eq_error.1 h with h | ⟨a, ha, h⟩
  · exact hx message h
  · exact hf a ha message h

lemma require (h : condition = false → allowed message) :
  FailsOnly allowed (require condition message) := by
  intro m hm
  obtain ⟨hfalse, rfl⟩ := require_eq_error.1 hm
  exact h hfalse

lemma expect (h : value = none → allowed message) : FailsOnly allowed (expect value message) := by
  intro m hm
  obtain ⟨hnone, rfl⟩ := expect_eq_error.1 hm
  exact h hnone

end FailsOnly
end Checked
