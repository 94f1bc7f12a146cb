import Interconnect.Proofs.Routing.Eviction
/-!
# Clocks stay on their resources

A search asks for the intent of a wire when it meets it, as the source of a pip. The wires that are
bound later are the ones that the pips drive: each of them is the source of the next pip, or the sink.
-/
namespace Interconnect

namespace Device

variable {d : Device} {w : WireId}

/-- Whether a pass may route from a wire. -/
def MayLeave (d : Device) (pass : Pass) (w : WireId) : Prop :=
  ∃ i, d.wireIntent w = .ok i ∧ pass.admitsIntent i = true

/-- Whether a pass may use a pip. -/
def MayUse (d : Device) (pass : Pass) (p : PipId) : Prop :=
  d.isBlacklisted p = .ok false ∧ ∃ w, d.pipSrcWire p = .ok w ∧ d.MayLeave pass w

theorem mayLeave_clock_iff :
    d.MayLeave .clock w ↔ ∃ i, d.wireIntent w = .ok i ∧ i ∉ Pass.clockExcludedIntents := by
  simp [MayLeave, Pass.admitsIntent]

end Device

namespace Context

variable {c c' c₀ : Context} {pass : Pass} {w x : WireId} {t : Tenure}

/-- From one context to the other only pips that a pass may use are bound anew, and only wires that it
may route from and ends of its nets are held differently. -/
structure Dedicated (pass : Pass) (c c' : Context) : Prop where
  pip : ∀ p held, c'.pipBinding p = some held → c.pipBinding p ≠ some held → c.device.MayUse pass p
  wire : ∀ w, c'.wireBinding w ≠ c.wireBinding w →
    c.device.MayLeave pass w ∨ ∃ net ∈ c.passNets pass, c.IsEnd net w

namespace Dedicated

theorem refl (pass : Pass) (c : Context) : Dedicated pass c c :=
  ⟨fun _ _ h hne => absurd h hne, fun _ hne => absurd rfl hne⟩

theorem take (h : Dedicated pass c₀ c) (hchange : c.Change c' x (some t))
    (hpip : ∀ p s, t.driver = some (p, s) →
      c.pipBinding p = some ⟨t.hold.net, s⟩ ∨ c₀.device.MayUse pass p)
    (hwire : c₀.device.MayLeave pass x ∨ ∃ net ∈ c₀.passNets pass, c₀.IsEnd net x) :
    Dedicated pass c₀ c' := by
  constructor
  · intro p held hheld hnew
    rcases hchange.pip_cases hheld with ⟨t', ht, hnet, hdriver⟩ | ⟨_, hbefore⟩
    · obtain rfl := Option.some.inj ht
      rcases hpip p held.strength hdriver with hbefore | huse
      · rw [← hnet] at hbefore
        exact h.pip p held hbefore hnew
      · exact huse
    · exact h.pip p held hbefore hnew
  · intro w hnew
    by_cases hx : w = x
    · exact hx ▸ hwire
    · rw [hchange.wireBinding_of_ne hx] at hnew
      exact h.wire w hnew

theorem keeps (hd : c.device.AdjacencyConsistent) :
    pass.Keeps c fun _ _ c' _ _ => Dedicated pass c c' := by
  refine ⟨id, ?_, ?_, ?_⟩
  · intro net _ _ c₁ c₂ _ _ w hnet hc hu h hsource hbind
    obtain ⟨_, _, hchange⟩ := bindWire_change hc hbind
    apply h.take hchange
    · -- the pip that drives the wire is the net's already
      intro p s hdriver
      rw [Binding.rebound_net]
      exact Or.inl (hc.driverOf_eq_some_iff.1 hdriver).2
    · exact Or.inr ⟨net, hnet, Or.inl (sourceWire_of_unrouted hu hsource)⟩
  · intro net _ _ c₁ c₂ _ _ p hnet hc hu h hgraft hbind
    have hdevice := device_of_unrouted hu
    obtain ⟨w, _, hleg⟩ := (hgraft hd).leg
    obtain ⟨hbl, _⟩ := isPipFreeFor_eq_true_iff.1 hleg.free
    obtain ⟨x, _, _, hfree, _, hchange⟩ := (hgraft hd).change hc hbind
    apply h.take hchange
    · intro q s hdriver
      obtain rfl : p = q := congrArg Prod.fst (Option.some.inj hdriver)
      exact Or.inr ⟨hdevice ▸ hbl, w, hdevice ▸ hleg.src, hdevice ▸ hleg.intent⟩
    · rcases hfree with ⟨_, hintent⟩ | hsink
      · exact Or.inl (hdevice ▸ hintent)
      · exact Or.inr ⟨net, hnet, Or.inr (isSink_of_unrouted hu hsink)⟩
  · intro _ _ _ _ _ _ _ _ _ _ _ h _ _
    exact h

end Dedicated

/-- Whatever comes of routing clocks where the pips listed uphill of a wire drive it: the pips that are
bound anew are not excluded and come from wires that clocks may route from, and the only wires of the
general interconnect that are held differently are ends of clock nets. -/
theorem clocks_stay_dedicated {d : Device} (h : Reachable d c) (hd : c.device.AdjacencyConsistent)
    {log : Log} {o : PassOutcome} (ho : c.routeClocks log = .ok o) :
    (∀ p held, o.ctx.pipBinding p = some held → c.pipBinding p ≠ some held →
      c.device.isBlacklisted p = .ok false ∧ ∃ w i, c.device.pipSrcWire p = .ok w ∧
        c.device.wireIntent w = .ok i ∧ i ∉ Pass.clockExcludedIntents) ∧
    ∀ w i, c.device.wireIntent w = .ok i → i ∈ Pass.clockExcludedIntents →
      o.ctx.wireBinding w ≠ c.wireBinding w → ∃ net ∈ c.passNets .clock, c.IsEnd net w := by
  have hroute : c.routePass log .clock = .ok o := ho
  obtain ⟨_, _, _, _, _, _, _, hleft⟩ :=
    routePass_keeps (Dedicated.keeps hd) h.coherent (.refl .clock c) hroute
  constructor
  · intro p held hheld hnew
    obtain ⟨hbl, w, hw, hleave⟩ := hleft.pip p held hheld hnew
    obtain ⟨i, hi, hdedicated⟩ := Device.mayLeave_clock_iff.1 hleave
    exact ⟨hbl, w, i, hw, hi, hdedicated⟩
  · intro w i hi hexcluded hnew
    refine (hleft.wire w hnew).resolve_left fun hleave => ?_
    obtain ⟨j, hj, hdedicated⟩ := Device.mayLeave_clock_iff.1 hleave
    obtain rfl : i = j := Except.ok.inj (hi.symm.trans hj)
    exact hdedicated hexcluded

/-- The wire where power and the clock meet is in the general interconnect. -/
def crossingSingleRecord : ChipRecord :=
  let sink : Wire := ⟨0, Known.ident "SINGLE", none, #[0, 1], #[], #[]⟩
  { crossingRecord with
    tileTypes := crossingRecord.tileTypes.map fun t => { t with wires := t.wires.pop.push sink } }

theorem crossingSingle_accepted : crossingSingleRecord.Accepted := by
  rw [ChipRecord.Accepted]
  decide +kernel

def crossingSingle : Device :=
  { crossing with db := ⟨crossingSingleRecord, ⟨[]⟩, crossingSingle_accepted⟩ }

/-- The clock comes to its sink in the general interconnect through a pip that leaves a clock wire. -/
theorem clocks_stay_dedicated_crossing : ∃ c o p held w i, Reachable crossingSingle c ∧
    c.device.AdjacencyConsistent ∧ c.routeClocks {} = .ok o ∧
    o.ctx.pipBinding p = some held ∧ c.pipBinding p ≠ some held ∧
    c.device.isBlacklisted p = .ok false ∧
    c.device.wireIntent w = .ok i ∧ i ∈ Pass.clockExcludedIntents ∧
    o.ctx.wireBinding w ≠ c.wireBinding w ∧ ∃ net ∈ c.passNets .clock, c.IsEnd net w := by
  have hrun : (do
      let c ← Act.performAll { device := crossingSingle } crossingActs
      let o ← PassOutcome.of ([0, 1].foldlM routeClock
        (({ ctx := c, log := {} } : PassState).note 2 "routing global clocks"))
      return decide (c.netlist.nets.toList.map (·.name) = [Netlist.vccName, "clk"] ∧
        c.device.checkAdjacency = true ∧
        o.ctx.pipBinding ⟨0, 1⟩ = some ⟨1, .locked⟩ ∧ c.pipBinding ⟨0, 1⟩ ≠ some ⟨1, .locked⟩ ∧
        c.device.wireIntent (.tile 0 2) = .ok (Known.ident "SINGLE") ∧
        Known.ident "SINGLE" ∈ Pass.clockExcludedIntents ∧
        o.ctx.wireBinding (.tile 0 2) ≠ c.wireBinding (.tile 0 2))) = Except.ok true := by
    decide +kernel
  obtain ⟨c, hc, hrun⟩ := bind_eq_ok_iff.1 hrun
  obtain ⟨o, ho, hrun⟩ := bind_eq_ok_iff.1 hrun
  obtain ⟨hnames, hadjacency, hbound, hnew, hintent, hexcluded, hchanged⟩ :=
    of_decide_eq_true (Except.ok.inj hrun)
  have hreach : Reachable crossingSingle c := Run.start.performAll (fun _ _ _ => trivial) hc
  have hd := Device.checkAdjacency_iff.1 hadjacency
  have hroute : c.routeClocks {} = .ok o := (routeClocks_crossing hnames).trans ho
  obtain ⟨hpips, hwires⟩ := clocks_stay_dedicated hreach hd hroute
  exact ⟨c, o, _, _, _, _, hreach, hd, hroute, hbound, hnew, (hpips _ _ hbound hnew).1, hintent,
    hexcluded, hchanged, hwires _ _ hintent hexcluded hchanged⟩

end Context
end Interconnect
