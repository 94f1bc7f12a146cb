import Interconnect.Proofs.Device.Range
/-!
# Two computations, one beside the other

Two computations are alike when both answer or neither does, and what they end with is related. A
relation between the answers of two steps is one between the inputs of the next two, so whole
computations are compared step by step.
-/
namespace Interconnect

variable {ε ε' α β γ δ : Type} {E : ε → ε' → Prop} {R : α → β → Prop} {S : γ → δ → Prop}

/-- Both answer or both fail, with answers or errors that are related. -/
inductive Alike (E : ε → ε' → Prop) (R : α → β → Prop) : Except ε α → Except ε' β → Prop
  | ok {a : α} {b : β} (h : R a b) : Alike E R (.ok a) (.ok b)
  | error {e : ε} {e' : ε'} (h : E e e') : Alike E R (.error e) (.error e')

/-- Both questions have answers, and related ones, or both meet a fault, whatever it is. -/
abbrev AlikeQuery (R : α → β → Prop) : Query α → Query β → Prop := Alike (fun _ _ => True) R

namespace Alike

theorem bind {x : Except ε α} {y : Except ε' β} {f : α → Except ε γ} {g : β → Except ε' δ}
    (h : Alike E R x y) (hfg : ∀ a b, R a b → Alike E S (f a) (g b)) :
    Alike E S (x >>= f) (y >>= g) := by
  cases h with
  | ok h => exact hfg _ _ h
  | error h => exact .error h

theorem answered {x : Except ε α} {y : Except ε' β} (h : Alike E R x y) :
    Alike E (fun a b => x = .ok a ∧ y = .ok b ∧ R a b) x y := by
  cases h with
  | ok h => exact .ok ⟨rfl, rfl, h⟩
  | error h => exact .error h

/-- Two walks over lists that correspond place by place. -/
theorem foldlM {σ σ' : Type} {P : α → β → Prop} {T : σ → σ' → Prop} {step : σ → α → Except ε σ}
    {step' : σ' → β → Except ε' σ'} {xs : List α} {ys : List β} (hxs : List.Forall₂ P xs ys)
    (hstep : ∀ s s' x y, T s s' → P x y → Alike E T (step s x) (step' s' y)) {s : σ} {s' : σ'}
    (hs : T s s') : Alike E T (xs.foldlM step s) (ys.foldlM step' s') := by
  induction hxs generalizing s s' with
  | nil => exact .ok hs
  | cons hxy _ ih =>
    rw [List.foldlM_cons, List.foldlM_cons]
    apply (hstep s s' _ _ hs hxy).bind
    intro t t' ht
    exact ih ht

end Alike

namespace AlikeQuery

theorem of_eq {q q' : Query α} (h : q' = q) : AlikeQuery Eq q q' := by
  rw [h]
  cases q with
  | ok a => exact .ok rfl
  | error f => exact .error trivial

theorem bind_same {q : Query α} {f : α → Query γ} {g : α → Query δ}
    (hfg : ∀ a, q = .ok a → AlikeQuery S (f a) (g a)) : AlikeQuery S (q >>= f) (q >>= g) := by
  cases q with
  | ok a => exact hfg a rfl
  | error f => exact .error trivial

theorem fetch {xs : Array α} {ys : Array β} {i j : Nat} (h : Option.Rel R xs[i]? ys[j]?) :
    AlikeQuery R (fetch xs i) (Interconnect.fetch ys j) := by
  unfold Interconnect.fetch
  cases hx : xs[i]? with
  | none =>
    rw [hx] at h
    cases hy : ys[j]? with
    | none => exact .error trivial
    | some y =>
      rw [hy] at h
      cases h
  | some x =>
    rw [hx] at h
    cases hy : ys[j]? with
    | none =>
      rw [hy] at h
      cases h
    | some y =>
      rw [hy] at h
      cases h with
      | some h => exact .ok h

end AlikeQuery
end Interconnect
