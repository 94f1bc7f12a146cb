import Interconnect.Proofs.Ownership.Lock
import Mathlib.Data.List.Destutter
/-!
# Strength only grows

As long as nothing is unbound, a wire that is held stays held. It is never held more weakly than
before, and it goes to another net only at a greater strength. So no wire has more owners, one after
the other, than there are strengths.
-/
namespace Interconnect

/-! ### Records -/

theorem Strength.rank_lt (s : Strength) : s.rank < 3 := by
  cases s <;> decide

namespace Binding

/-- Later the resource is still held, no more weakly than before, and by another net only if it is
held more strongly. -/
def Rises (b b' : Binding) : Prop :=
  ∀ held, b = some held → ∃ held', b' = some held' ∧ held.strength ≤ held'.strength ∧
    (held'.net ≠ held.net → held.strength < held'.strength)

variable {b b' b'' : Binding} {net : NetId} {s : Strength}

theorem Rises.refl (b : Binding) : b.Rises b := by
  intro held hb
  exact ⟨held, hb, Strength.le_refl _, fun hne => absurd rfl hne⟩

theorem Rises.trans (h : b.Rises b') (h' : b'.Rises b'') : b.Rises b'' := by
  intro held hb
  obtain ⟨held', hb', hle, hlt⟩ := h held hb
  obtain ⟨held'', hb'', hle', hlt'⟩ := h' held' hb'
  refine ⟨held'', hb'', Strength.le_trans hle hle', fun hne => ?_⟩
  by_cases hnet : held'.net = held.net
  · exact Nat.lt_of_le_of_lt hle (hlt' (hnet ▸ hne))
  · exact Nat.lt_of_lt_of_le (hlt hnet) hle'

theorem rises_rebound (h : b.admits net s = true) : b.Rises (some (b.rebound net s)) := by
  rintro held rfl
  refine ⟨_, rfl, ?_⟩
  rcases admits_eq_true_iff.1 h held rfl with rfl | hlt
  · exact ⟨le_rebound_own rfl, fun hne => absurd rebound_net hne⟩
  · have hrise : held.strength < (rebound (some held) net s).strength :=
      Nat.lt_of_lt_of_le hlt le_rebound
    exact ⟨Nat.le_of_lt hrise, fun _ => hrise⟩

end Binding

/-! ### Requests that bind -/

namespace Act

/-- Whether a request binds a wire or a pip, or routes. -/
def IsClaim : Act → Prop
  | bindWire .. | bindPip .. | route .. => True
  | _ => False

end Act

namespace Context

variable {c c' : Context} {w x : WireId} {p : PipId} {net : NetId} {s : Strength}

/-- The one wire that changes is held by whoever asked for it, and the others are held as before. -/
theorem Change.rises {t : Tenure} (h : c.Change c' x (some t))
    (hold : t.hold = (c.wireBinding x).rebound net s)
    (hadm : (c.wireBinding x).admits net s = true) (w : WireId) :
    (c.wireBinding w).Rises (c'.wireBinding w) := by
  by_cases hx : w = x
  · subst x
    rw [h.wireBinding_self, Option.map_some, hold]
    exact Binding.rises_rebound hadm
  · rw [h.wireBinding_of_ne hx]
    exact .refl _

theorem Coherent.bindWire_rises (hc : c.Coherent) (h : c.bindWire x net s = .ok (.ok c'))
    (w : WireId) : (c.wireBinding w).Rises (c'.wireBinding w) := by
  obtain ⟨_, hadm, hchange⟩ := bindWire_change hc h
  exact hchange.rises rfl hadm w

theorem Coherent.bindPip_rises (hc : c.Coherent) (h : c.bindPip p net s = .ok (.ok c'))
    (w : WireId) : (c.wireBinding w).Rises (c'.wireBinding w) := by
  obtain ⟨x, _, _, _, _, hadm, hchange⟩ := bindPip_change hc h
  exact hchange.rises rfl hadm w

theorem routePass_binds (hc : c.Coherent) {pass : Pass} {log : Log} {o : PassOutcome}
    (h : c.routePass log pass = .ok o) : Run (fun _ a => a.IsBind) c o.ctx := by
  have hk : pass.Keeps c fun _ _ c' _ _ => Run (fun _ a => a.IsBind) c c' := by
    refine ⟨id, ?_, ?_, ?_⟩
    · intro net _ _ c₁ c₂ _ _ w _ _ _ hrun _ hbind
      refine .step (a := .bindWire w net pass.strength) hrun trivial ?_
      rw [Act.perform, hbind]
      rfl
    · intro net _ _ c₁ c₂ _ _ p _ _ _ hrun _ hbind
      refine .step (a := .bindPip p net pass.strength) hrun trivial ?_
      rw [Act.perform, hbind]
      rfl
    · intro _ _ _ _ _ _ _ _ _ _ _ hrun _ _
      exact hrun
  obtain ⟨_, _, _, _, _, _, _, hleft⟩ := routePass_keeps hk hc .start h
  exact hleft

end Context

theorem Act.perform_bind_rises {c c' : Context} {a : Act} (hc : c.Coherent) (ha : a.IsBind)
    (h : a.perform c = .ok c') (w : WireId) : (c.wireBinding w).Rises (c'.wireBinding w) := by
  have hrouting : a.IsRouting := by
    cases a <;> trivial
  rcases perform_cases hrouting h with rfl | hgranted | ⟨_, _, _, rfl, _, _⟩
  · exact .refl _
  · cases hgranted with
    | bindWire hbind => exact hc.bindWire_rises hbind w
    | bindPip hbind => exact hc.bindPip_rises hbind w
    | unbindWire | unbindPip => cases ha
  · cases ha

/-! ### Runs -/

namespace Run

variable {c c' : Context}

theorem binds_rise (hc : c.Coherent) (h : Run (fun _ a => a.IsBind) c c') (w : WireId) :
    (c.wireBinding w).Rises (c'.wireBinding w) := by
  induction h with
  | start => exact .refl _
  | step hrun ha hstep ih => exact ih.trans (Act.perform_bind_rises (hrun.coherent hc) ha hstep w)

theorem trans {P : Context → Act → Prop} {c'' : Context} (h : Run P c c') (h' : Run P c' c'') :
    Run P c c'' := by
  induction h' with
  | start => exact h
  | step _ ha hstep ih => exact .step ih ha hstep

/-- Whatever binds and routes is made of requests that bind one wire or one pip. -/
theorem binds_of_claims (hc : c.Coherent) (h : Run (fun _ a => a.IsClaim) c c') :
    Run (fun _ a => a.IsBind) c c' := by
  induction h with
  | start => exact .start
  | @step c₁ c₂ a hrun ha hstep ih =>
    cases a with
    | bindWire w net s => exact ih.step (a := .bindWire w net s) trivial hstep
    | bindPip p net s => exact ih.step (a := .bindPip p net s) trivial hstep
    | route pass log =>
      obtain ⟨o, ho, hctx⟩ := bind_eq_ok_iff.1 hstep
      obtain rfl := Except.ok.inj hctx
      exact ih.trans (Context.routePass_binds (hrun.coherent hc) ho)
    | edit | setCell | setNet | intern | setDebug | annotate | applySettings | bindBel | unbindBel
    | setSiteVariant | setSinkLocation | locateSinks | unbindWire | unbindPip => cases ha

end Run

/-! ### One owner after the other -/

namespace Context

variable {c c' : Context} {w : WireId}

/-- The nets that hold a wire in a sequence of contexts, each of them once for as long as it does. -/
def owners (w : WireId) (cs : List Context) : List NetId :=
  (cs.filterMap (·.wireNet w)).destutter (· ≠ ·)

/-- Every further owner is paid for by a greater strength. -/
theorem owners_add_rank {cs : List Context} {held : Hold}
    (h : (c :: cs).IsChain fun c c' => (c.wireBinding w).Rises (c'.wireBinding w))
    (hheld : c.wireBinding w = some held) :
    ((cs.filterMap (·.wireNet w)).destutter' (· ≠ ·) held.net).length + held.strength.rank ≤ 3 := by
  induction cs generalizing c held with
  | nil =>
    have hrank := held.strength.rank_lt
    simp only [List.filterMap_nil, List.destutter'_nil, List.length_singleton]
    omega
  | cons c' cs ih =>
    obtain ⟨hrise, hchain⟩ := List.isChain_cons_cons.1 h
    obtain ⟨held', hheld', hle, hlt⟩ := hrise held hheld
    have hnet : c'.wireNet w = some held'.net := by rw [wireNet, hheld']; rfl
    have hrest := ih hchain hheld'
    simp only [List.filterMap_cons, hnet]
    by_cases hne : held.net ≠ held'.net
    · have hless : held.strength.rank < held'.strength.rank := hlt (Ne.symm hne)
      rw [List.destutter'_cons, if_pos hne, List.length_cons]
      omega
    · have hmore : held.strength.rank ≤ held'.strength.rank := hle
      rw [List.destutter'_cons, if_neg hne, not_not.1 hne]
      omega

theorem length_owners_le {cs : List Context}
    (h : cs.IsChain fun c c' => (c.wireBinding w).Rises (c'.wireBinding w)) :
    (owners w cs).length ≤ 3 := by
  induction cs with
  | nil => simp [owners]
  | cons c cs ih =>
    cases hheld : c.wireBinding w with
    | none =>
      have hnet : c.wireNet w = none := by rw [wireNet, hheld]; rfl
      simp only [owners, List.filterMap_cons, hnet]
      exact ih h.tail
    | some held =>
      have hnet : c.wireNet w = some held.net := by rw [wireNet, hheld]; rfl
      have hrank := owners_add_rank h hheld
      simp only [owners, List.filterMap_cons, hnet, List.destutter_cons']
      omega

theorem isChain_rises {cs : List Context} (hc : c.Coherent)
    (h : (c :: cs).IsChain fun c c' => ∃ a : Act, a.IsClaim ∧ a.perform c = .ok c') :
    (c :: cs).IsChain fun c c' => (c.wireBinding w).Rises (c'.wireBinding w) := by
  induction cs generalizing c with
  | nil => exact .singleton c
  | cons c' cs ih =>
    obtain ⟨⟨a, ha, hstep⟩, hrest⟩ := List.isChain_cons_cons.1 h
    have hrun : Run (fun _ a => a.IsClaim) c c' := .step .start ha hstep
    exact .cons_cons ((hrun.binds_of_claims hc).binds_rise hc w) (ih (hrun.coherent hc) hrest)

end Context

/-- From any moment of a run that binds and routes to any later one, a wire that is held stays held at
no less strength, and goes to another net only at a greater one. What happens in between is that one
wire or pip after the other is bound, in the passes too, so the moments of a pass count as well. A
wire has three owners at most, one after the other. -/
theorem strength_climbs {d : Device} {c : Context} (h : Reachable d c) (w : WireId) :
    (∀ c₁ c₂, Run (fun _ a => a.IsClaim) c c₁ → Run (fun _ a => a.IsClaim) c₁ c₂ →
      (c₁.wireBinding w).Rises (c₂.wireBinding w) ∧ Run (fun _ a => a.IsBind) c₁ c₂) ∧
    ∀ cs, (c :: cs).IsChain (fun c c' => ∃ a : Act, a.IsClaim ∧ a.perform c = .ok c') →
      (Context.owners w (c :: cs)).length ≤ 3 := by
  have hc := h.coherent
  refine ⟨fun c₁ c₂ hbefore hrun => ?_, fun cs hchain => ?_⟩
  · have hc₁ := hbefore.coherent hc
    have hbinds := hrun.binds_of_claims hc₁
    exact ⟨hbinds.binds_rise hc₁ w, hbinds⟩
  · exact Context.length_owners_le (Context.isChain_rises hc hchain)

/-- Three nets take a wire, each at the next strength. -/
theorem strength_climbs_fork : ∃ c c₁ c₂ c₃, Reachable fork c ∧
    Run (fun _ a => a.IsClaim) c c₁ ∧ Run (fun _ a => a.IsClaim) c₁ c₃ ∧
    (c₁.wireBinding (.tile 0 1)).Rises (c₃.wireBinding (.tile 0 1)) ∧
    Context.owners (.tile 0 1) [c, c₁, c₂, c₃] = [0, 1, 2] ∧
    (Context.owners (.tile 0 1) [c, c₁, c₂, c₃]).length ≤ 3 := by
  obtain ⟨c, c₁, c₂, c₃, hc, h₁, h₂, h₃, howners⟩ : ∃ c c₁ c₂ c₃, Reachable fork c ∧
      (Act.bindPip ⟨0, 0⟩ 0 .weak).perform c = .ok c₁ ∧
      (Act.bindWire (.tile 0 1) 1 .strong).perform c₁ = .ok c₂ ∧
      (Act.bindPip ⟨0, 1⟩ 2 .locked).perform c₂ = .ok c₃ ∧
      Context.owners (.tile 0 1) [c, c₁, c₂, c₃] = [0, 1, 2] :=
    ⟨_, _, _, _, .step (a := .edit (.net "c")) (.step (a := .edit (.net "b"))
      (.step (a := .edit (.net "a")) .start trivial rfl) trivial rfl) trivial rfl, rfl, rfl, rfl, rfl⟩
  have hbefore : Run (fun _ a => a.IsClaim) c c₁ :=
    .step (a := .bindPip ⟨0, 0⟩ 0 .weak) .start trivial h₁
  have hrun : Run (fun _ a => a.IsClaim) c₁ c₃ :=
    .step (a := .bindPip ⟨0, 1⟩ 2 .locked) (.step (a := .bindWire (.tile 0 1) 1 .strong) .start
      trivial h₂) trivial h₃
  obtain ⟨hrises, hcount⟩ := strength_climbs hc (.tile 0 1)
  refine ⟨c, c₁, c₂, c₃, hc, hbefore, hrun, (hrises c₁ c₃ hbefore hrun).1, howners, hcount _ ?_⟩
  exact .cons_cons ⟨.bindPip ⟨0, 0⟩ 0 .weak, trivial, h₁⟩
    (.cons_cons ⟨.bindWire (.tile 0 1) 1 .strong, trivial, h₂⟩
      (.cons_cons ⟨.bindPip ⟨0, 1⟩ 2 .locked, trivial, h₃⟩ (.singleton _)))

end Interconnect
