import Interconnect.Proofs.Routing.Search
import Interconnect.Proofs.Routing.Tree
/-!
# Growing trees

In a pass that starts with nothing bound, nets take free wires and keep them. A later search is
therefore allowed no step that an earlier one was not. The wires that a net gains hang from wires
that it held before, by pips that the earlier search would have followed the other way. So a sink
that no wire of its net led down to stays cut off, however the trees grow.
-/
namespace Interconnect.Context

variable {a c c' c'' c₀ : Context} {pass : Pass} {net : NetId} {sink w x y : WireId} {p : PipId}
  {t : Tenure} {ahead ahead' : List NetId}

/-- Whether no wire uphill of a sink is the net's. -/
def CutOff (c : Context) (pass : Pass) (net : NetId) (sink : WireId) : Prop :=
  ∀ w, c.Uphill pass net sink w → c.wireNet w ≠ some net

/-- What is held in one context is held in the other, and what is cut off from a net stays so, unless
the net has yet to be looked at. -/
structure Grows (pass : Pass) (ahead : List NetId) (c c' : Context) : Prop where
  unrouted : c'.unrouted = c.unrouted
  wire : ∀ w held, c.wireBinding w = some held → c'.wireBinding w = some held
  pip : ∀ p held, c.pipBinding p = some held → c'.pipBinding p = some held
  cut : ∀ net sink, net ∉ ahead → c.CutOff pass net sink → c'.CutOff pass net sink

theorem Leg.earlier (hu : c'.unrouted = c.unrouted)
    (hwire : ∀ w held, c.wireBinding w = some held → c'.wireBinding w = some held)
    (hpip : ∀ p held, c.pipBinding p = some held → c'.pipBinding p = some held)
    (h : c'.Leg pass net w p) : c.Leg pass net w p := by
  have hdevice := device_of_unrouted hu
  refine ⟨hdevice ▸ h.listed, hdevice ▸ h.src, ?_, hdevice ▸ h.intent, ?_⟩
  · obtain ⟨hbl, hown⟩ := isPipFreeFor_eq_true_iff.1 h.free
    refine isPipFreeFor_eq_true_iff.2 ⟨hdevice ▸ hbl, fun n hn => ?_⟩
    obtain ⟨held, hb, rfl⟩ := Option.map_eq_some_iff.1 hn
    exact hown held.net (by rw [pipNet, hpip p held hb]; rfl)
  · cases hb : c.wireBinding w with
    | none => rfl
    | some held =>
      have hunheld := h.unheld
      rwa [hwire w held hb] at hunheld

theorem Uphill.earlier (hu : c'.unrouted = c.unrouted)
    (hwire : ∀ w held, c.wireBinding w = some held → c'.wireBinding w = some held)
    (hpip : ∀ p held, c.pipBinding p = some held → c'.pipBinding p = some held)
    (h : c'.Uphill pass net sink w) : c.Uphill pass net sink w := by
  induction h with
  | start => exact .start
  | step _ hpips hp hleg ih =>
    rw [device_of_unrouted hu] at hpips
    exact ih.step hpips hp (hleg.earlier hu hwire hpip)

namespace Grows

theorem refl (pass : Pass) (ahead : List NetId) (c : Context) : Grows pass ahead c c :=
  ⟨rfl, fun _ _ h => h, fun _ _ h => h, fun _ _ _ h => h⟩

theorem trans (h : Grows pass ahead c c') (h' : Grows pass ahead' c' c'')
    (hsub : ahead' ⊆ ahead) : Grows pass ahead c c'' where
  unrouted := h'.unrouted.trans h.unrouted
  wire w held hw := h'.wire w held (h.wire w held hw)
  pip p held hp := h'.pip p held (h.pip p held hp)
  cut net sink hnet hcut :=
    h'.cut net sink (fun hmem => hnet (hsub hmem)) (h.cut net sink hnet hcut)

theorem wireNet (h : Grows pass ahead c c') (hw : c.wireNet w = some net) :
    c'.wireNet w = some net := by
  obtain ⟨held, hheld, rfl⟩ := Option.map_eq_some_iff.1 hw
  rw [Context.wireNet, h.wire w held hheld]
  rfl

theorem wireBinding_of_refused (h : Grows pass ahead c c') {s : Strength}
    (hw : ¬ (c.wireBinding w).admits net s = true) : c'.wireBinding w = c.wireBinding w := by
  cases hb : c.wireBinding w with
  | none => simp [hb, Binding.admits] at hw
  | some held => exact h.wire w held hb

/-- A net takes a free wire: its source, which nothing led up to before it was the net's turn, or one
that a legal step joins to a wire of the net. -/
theorem take (hd : c.device.AdjacencyConsistent) (hc : c.Coherent)
    (hchange : c.Change c' x (some t)) (hfree : c.wireBinding x = none)
    (hdriver : ∀ q s, t.driver = some (q, s) → c.device.pipDstWire q = .ok x)
    (hway : t.hold.net ∈ ahead ∨ ∃ p y, c.device.pipDstWire p = .ok x ∧
      c.Leg pass t.hold.net y p ∧ c.wireNet y = some t.hold.net) :
    Grows pass ahead c c' := by
  have hwire : ∀ w held, c.wireBinding w = some held → c'.wireBinding w = some held := by
    intro w held hw
    have hne : w ≠ x := by
      rintro rfl
      simp [hfree] at hw
    rw [hchange.wireBinding_of_ne hne]
    exact hw
  have hpip : ∀ p held, c.pipBinding p = some held → c'.pipBinding p = some held := by
    intro p held hp
    rw [hchange.pip_other, hp]
    · rintro t' s ht' hq
      obtain rfl := Option.some.inj ht'
      rw [hc.pipBinding_of_free (hdriver p s hq) hfree] at hp
      cases hp
    · simp [driver, hfree]
  refine ⟨hchange.unrouted, hwire, hpip, fun net sink hnet hcut w hw hown => ?_⟩
  have hbefore : c.Uphill pass net sink w := hw.earlier hchange.unrouted hwire hpip
  by_cases hwx : w = x
  · subst x
    obtain rfl : t.hold.net = net := Option.some.inj (hchange.wireNet_new.symm.trans hown)
    obtain ⟨p, y, hdst, hleg, hy⟩ := hway.resolve_left hnet
    -- the pip is listed at the wire that it drives, so the search could go up through it
    obtain ⟨v, pips, hv, hpips, hp⟩ := hleg.listed
    obtain rfl : v = w := Except.ok.inj ((hd v pips hv hpips p hp).symm.trans hdst)
    exact hcut y (hbefore.step hpips hp hleg) hy
  · refine hcut w hbefore ?_
    rw [Context.wireNet, ← hchange.wireBinding_of_ne hwx]
    exact hown

end Grows

/-- All along a pass the trees grow from what they were at some moment of it. -/
theorem Forest.grows (hd : c₀.device.AdjacencyConsistent) (a : Context) (ahead : List NetId) :
    pass.Keeps c₀ fun rest arcs c n k =>
      Forest pass rest arcs c n k ∧ rest ⊆ ahead ∧ Grows pass ahead a c := by
  refine ⟨?_, ?_, ?_, ?_⟩
  · rintro net rest arcs c n k ⟨hf, hsub, hg⟩
    exact ⟨(Forest.keeps hd).skip hf, fun m hm => hsub (by simp [hm]), hg⟩
  · rintro net rest arcs c c' n k w _ hc hu ⟨hf, hsub, hg⟩ hsource hbind
    obtain ⟨_, hadm, hchange⟩ := bindWire_change hc hbind
    have hfree := hf.source_free hadm
    have hdriver : c.driverOf net w = none := by
      rw [driverOf, hc.drivingPip_eq_none (by simp [wireNet, hfree])]
      rfl
    rw [hfree, hdriver] at hchange
    have hstep : Grows pass ahead c c' :=
      .take (device_of_unrouted hu ▸ hd) hc hchange hfree (fun _ _ h => by cases h)
        (Or.inl (hsub (by simp [Binding.rebound_net])))
    exact ⟨hf.source hc hsource hbind, fun m hm => hsub (by simp [hm]),
      hg.trans hstep fun _ h => h⟩
  · rintro net rest arcs c c' n k p _ hc hu ⟨hf, hsub, hg⟩ hgraft hbind
    obtain ⟨y, hy, hleg⟩ := (hgraft hd).leg
    obtain ⟨x, hx, hforeign, _, hadm, hchange⟩ := (hgraft hd).change hc hbind
    have hstep : Grows pass ahead c c' := by
      refine .take (device_of_unrouted hu ▸ hd) hc hchange (hf.free hforeign hadm) ?_ (Or.inr ?_)
      · intro q s hq
        obtain ⟨rfl, _⟩ := Prod.mk.inj (Option.some.inj hq)
        exact hx
      · rw [Binding.rebound_net]
        exact ⟨p, y, hx, hleg, hy⟩
    exact ⟨hf.graft hc (hgraft hd) hbind, hsub, hg.trans hstep fun _ h => h⟩
  · rintro net rest arcs c n k user sink hnet hc hu ⟨hf, hsub, hg⟩ hport hsink
    exact ⟨(Forest.keeps hd).arc hnet hc hu hf hport hsink, hsub, hg⟩

end Interconnect.Context
