/-
What a computation may return: `Ensures post x` bounds the values with which `x` can end.

* `Ensures.bind`: postconditions compose.
-/
import ManaOS.Lib.Checked

namespace Checked
variable {α β γ : Type} {post : α → Prop}

/-- Every value of the computation satisfies the postcondition. -/
structure Ensures (post : α → Prop) (x : Panicking α) : Prop where
  holds : ∀ {a}, x = .ok a → post a

namespace Ensures

lemma pure {a : α} (h : post a) : Ensures post (Pure.pure a : Panicking α) where
  holds hb := by
    cases hb
    exact h

lemma bind {P : β → Prop} {x : Panicking β} {f : β → Panicking α} (hx : Ensures P x)
  (hf : ∀ b, P b → Ensures post (f b)) : Ensures post (x >>= f) where
  holds h := by
    obtain ⟨b, hb, h⟩ := bind_eq_ok.1 h
    exact (hf b (hx.holds hb)).holds h

lemma bind_pair {P : β × γ → Prop} {x : Panicking (β × γ)} {f : β × γ → Panicking α}
  (hx : Ensures P x) (hf : ∀ b c, P (b, c) → Ensures post (f (b, c))) : Ensures post (x >>= f) :=
  hx.bind fun ended h => hf ended.1 ended.2 h

lemma after {x : Panicking β} {f : β → Panicking α} (hf : ∀ b, Ensures post (f b)) : Ensures
  post (x >>= f) := bind (P := fun _ => True) ⟨fun _ => trivial⟩ fun b _ => hf b

lemma ite {p : Prop} [Decidable p] {x y : Panicking α} (hx : p → Ensures post x)
  (hy : ¬ p → Ensures post y) : Ensures post (if p then x else y) := by
  split
  · next hp => exact hx hp
  · next hp => exact hy hp

end Ensures
end Checked
