import Interconnect.Binding
/-!
# Records of wires and pips

How the record of a wire or pip admits a net, and what becomes of it when the net takes the resource.
-/
namespace Interconnect

namespace Strength

theorem le_refl (a : Strength) : a ≤ a := Nat.le_refl a.rank

theorem le_trans {a b c : Strength} (h : a ≤ b) (h' : b ≤ c) : a ≤ c := Nat.le_trans h h'

theorem le_max_left (a b : Strength) : a ≤ max a b := by
  cases a <;> cases b <;> decide

theorem le_max_right (a b : Strength) : b ≤ max a b := by
  cases a <;> cases b <;> decide

theorem max_le {a b c : Strength} (h : a ≤ c) (h' : b ≤ c) : max a b ≤ c := by
  change (if a ≤ b then b else a) ≤ c
  split
  · exact h'
  · exact h

theorem not_locked_lt (s : Strength) : ¬ locked < s := by
  cases s <;> decide

theorem eq_locked_of_le {s : Strength} (h : locked ≤ s) : s = locked := by
  cases s with
  | locked => rfl
  | weak | strong => exact absurd h (by decide)

end Strength

namespace Binding

variable {b : Binding} {net : NetId} {s : Strength}

theorem admits_eq_true_iff :
    b.admits net s = true ↔ ∀ held, b = some held → held.net = net ∨ held.strength < s := by
  cases b <;> simp [admits]

theorem conflict?_eq_none_iff : b.conflict? net s = none ↔ b.admits net s = true := by
  cases b with
  | none => simp [conflict?, admits]
  | some held => simp [conflict?]

theorem heldByOther_eq_true_iff :
    b.heldByOther net = true ↔ ∃ held, b = some held ∧ held.net ≠ net := by
  cases b <;> simp [heldByOther]

theorem rebound_net : (b.rebound net s).net = net := by
  cases b with
  | none => rfl
  | some held =>
    simp only [rebound]
    split <;> rfl

theorem rebound_of_other (h : ∀ held, b = some held → held.net ≠ net) :
    b.rebound net s = ⟨net, s⟩ := by
  cases b with
  | none => rfl
  | some held => simp [rebound, h held rfl]

theorem rebound_own {s₀ : Strength} :
    rebound (some ⟨net, s₀⟩) net s = ⟨net, max s₀ s⟩ := by
  simp [rebound]

theorem le_rebound : s ≤ (b.rebound net s).strength := by
  cases b with
  | none => exact Strength.le_refl s
  | some held =>
    simp only [rebound]
    split
    · exact Strength.le_max_right held.strength s
    · exact Strength.le_refl s

theorem le_rebound_own {s₀ : Strength} (h : b = some ⟨net, s₀⟩) :
    s₀ ≤ (b.rebound net s).strength := by
  rw [h, rebound_own]
  exact Strength.le_max_left s₀ s

theorem rebound_le_rebound {b' : Binding}
    (h : ∀ s₀, b = some ⟨net, s₀⟩ → ∃ s₁, b' = some ⟨net, s₁⟩ ∧ s₀ ≤ s₁) :
    (b.rebound net s).strength ≤ (b'.rebound net s).strength := by
  by_cases ho : ∃ s₀, b = some ⟨net, s₀⟩
  · obtain ⟨s₀, rfl⟩ := ho
    obtain ⟨s₁, hb', hle⟩ := h s₀ rfl
    rw [rebound_own]
    exact Strength.max_le (Strength.le_trans hle (le_rebound_own hb')) le_rebound
  · have hother : ∀ held, b = some held → held.net ≠ net := by
      rintro ⟨n, s₀⟩ hb rfl
      exact ho ⟨s₀, hb⟩
    rw [rebound_of_other hother]
    exact le_rebound

/-! Nobody but its holder is admitted to what is locked, and that changes nothing. -/

theorem admits_locked {other : NetId} (h : admits (some ⟨net, .locked⟩) other s = true) :
    other = net := by
  rcases admits_eq_true_iff.1 h _ rfl with hnet | hlt
  · exact hnet.symm
  · exact absurd hlt (Strength.not_locked_lt s)

theorem rebound_locked (s : Strength) : rebound (some ⟨net, .locked⟩) net s = ⟨net, .locked⟩ := by
  rw [rebound_own]
  cases s <;> rfl

end Binding

end Interconnect
