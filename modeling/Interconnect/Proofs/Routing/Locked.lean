import Interconnect.Proofs.Ownership.Lock
import Interconnect.Proofs.Routing.Tree
/-!
# Clock routes are locked

Whatever a clock pass binds is locked, and no step of the pass takes a locked wire or pip from its
net. A search ends at any wire that the net holds already, though, and what is above that wire was
bound by somebody else. So the pips that a clock pass leaves lead up through locked wires to the
source of the net, or to a wire that the net held before the pass without such a way up.
-/
namespace Interconnect

theorem Binding.rebound_at_locked {b : Binding} {net : NetId} :
    b.rebound net .locked = ⟨net, .locked⟩ :=
  (Hold.eq_mk_iff ..).2 ⟨rebound_net, Strength.eq_locked_of_le le_rebound⟩

namespace Context

variable {c c' c₀ : Context} {net m : NetId} {w x : WireId} {p : PipId} {stop stop' : WireId → Prop}

/-- From a wire the pips that drive the wires of a net lead up to a wire where the climb may stop,
through nothing but wires and pips that are locked for the net. -/
inductive ClimbsLocked (c : Context) (net : NetId) (stop : WireId → Prop) : WireId → Prop
  | stop {w : WireId} : stop w → ClimbsLocked c net stop w
  | pip {w x : WireId} {p : PipId} : c.wireBinding w = some ⟨net, .locked⟩ →
    c.drivingPip net w = some p → c.pipBinding p = some ⟨net, .locked⟩ →
    c.device.pipSrcWire p = .ok x → ClimbsLocked c net stop x → ClimbsLocked c net stop w

def LockedSource (c : Context) (net : NetId) (w : WireId) : Prop :=
  c.sourceWire net = .ok (some w) ∧ c.wireBinding w = some ⟨net, .locked⟩

theorem ClimbsLocked.imp (h : c.ClimbsLocked net stop w) (hstop : ∀ x, stop x → stop' x) :
    c.ClimbsLocked net stop' w := by
  induction h with
  | stop h => exact .stop (hstop _ h)
  | pip hwire hdrive hpip hsrc _ ih => exact .pip hwire hdrive hpip hsrc ih

theorem ClimbsLocked.locked (h : c.ClimbsLocked net (c.LockedSource net) w) :
    c.wireBinding w = some ⟨net, .locked⟩ := by
  cases h with
  | stop h => exact h.2
  | pip hwire => exact hwire

/-- Whether a net holds a wire from which no locked way leads up to the source of the net. -/
def Loose (c : Context) (net : NetId) (w : WireId) : Prop :=
  c.wireNet w = some net ∧ ¬ c.ClimbsLocked net (c.LockedSource net) w

/-- What is locked stays locked from one context to the other. -/
structure KeepsLocked (c c' : Context) : Prop where
  coherent : c'.Coherent
  unrouted : c'.unrouted = c.unrouted
  wire : ∀ w net, c.wireBinding w = some ⟨net, .locked⟩ → c'.wireBinding w = some ⟨net, .locked⟩
  pip : ∀ p net, c.pipBinding p = some ⟨net, .locked⟩ → c'.pipBinding p = some ⟨net, .locked⟩

theorem KeepsLocked.source (h : KeepsLocked c c') (hw : c.LockedSource net w) :
    c'.LockedSource net w :=
  ⟨sourceWire_of_unrouted h.unrouted.symm hw.1, h.wire w net hw.2⟩

theorem KeepsLocked.climbs (h : KeepsLocked c c') (hc : c.Coherent)
    (hstop : ∀ x, stop x → stop' x) (hw : c.ClimbsLocked net stop w) :
    c'.ClimbsLocked net stop' w := by
  induction hw with
  | stop hw => exact .stop (hstop _ hw)
  | @pip w x p hwire hdrive hpip hsrc _ ih =>
    have hdst : c'.device.pipDstWire p = .ok w := by
      rw [device_of_unrouted h.unrouted]
      exact hc.leads net w p hdrive
    have hpip' : c'.pipBinding p = some ⟨net, .locked⟩ := h.pip p net hpip
    obtain ⟨y, hy, hdrive', -, -⟩ := h.coherent.locked_pip hpip'
    obtain rfl : y = w := Except.ok.inj (hy.symm.trans hdst)
    refine .pip (h.wire _ net hwire) hdrive' hpip' ?_ ih
    rw [device_of_unrouted h.unrouted]
    exact hsrc

/-- From every wire of a net a locked way leads up to the net's source, or to a wire that was loose
in the context where the pass began. -/
def Anchored (c₀ c : Context) : Prop :=
  ∀ w net, c.wireNet w = some net →
    c.ClimbsLocked net (fun x => c.LockedSource net x ∨ c₀.Loose net x) w

namespace Anchored

theorem start (c : Context) : Anchored c c := by
  intro w net hw
  by_cases hlocked : c.ClimbsLocked net (c.LockedSource net) w
  · exact hlocked.imp fun _ => Or.inl
  · exact .stop (Or.inr ⟨hw, hlocked⟩)

theorem keeps (h : Anchored c₀ c) (hc : c.Coherent) (hk : KeepsLocked c c')
    (hw : c.wireNet w = some net) :
    c'.ClimbsLocked net (fun x => c'.LockedSource net x ∨ c₀.Loose net x) w :=
  hk.climbs hc (fun _ => Or.imp_left hk.source) (h w net hw)

theorem source (h : Anchored c₀ c) (hc : c.Coherent) (hsource : c.sourceWire m = .ok (some w))
    (hbind : c.bindWire w m .locked = .ok (.ok c')) : Anchored c₀ c' := by
  obtain ⟨_, _, hchange⟩ := bindWire_change hc hbind
  have hk : KeepsLocked c c' :=
    ⟨hc.bindWire hbind, hchange.unrouted, fun _ _ hw => hc.bindWire_locked hw hbind,
      fun _ _ hp => hc.bindWire_locked_pip hp hbind⟩
  intro y net hy
  by_cases hyw : y = w
  · have hlocked : c'.wireBinding w = some ⟨m, .locked⟩ := by
      rw [hchange.wireBinding_self, Binding.rebound_at_locked]
      rfl
    obtain rfl : m = net := by
      rw [hyw, wireNet, hlocked] at hy
      exact Option.some.inj hy
    rw [hyw]
    exact .stop (Or.inl ⟨sourceWire_of_unrouted hchange.unrouted.symm hsource, hlocked⟩)
  · rw [wireNet, hchange.wireBinding_of_ne hyw] at hy
    exact h.keeps hc hk hy

theorem graft (h : Anchored c₀ c) (hc : c.Coherent) (hgraft : c.Graft .clock m p)
    (hbind : c.bindPip p m .locked = .ok (.ok c')) : Anchored c₀ c' := by
  obtain ⟨y, hy, hleg⟩ := hgraft.leg
  obtain ⟨x, hx, hforeign, _, _, hchange⟩ := hgraft.change hc hbind
  rw [show Pass.clock.strength = .locked from rfl, Binding.rebound_at_locked] at hchange
  have hc' := hc.bindPip hbind
  have hk : KeepsLocked c c' := by
    refine ⟨hc', hchange.unrouted, fun _ _ hw => hc.bindPip_locked hw hbind, ?_⟩
    intro q net hq
    refine hc.bindPip_locked_pip hq hbind fun hnet _ hdst => ?_
    -- a pip of the same net to the same wire would make the wire the net's
    obtain ⟨v, hv, _, hlocked, _⟩ := hc.locked_pip hq
    obtain rfl : x = v := Except.ok.inj (hx.symm.trans (hdst.trans hv))
    exact hforeign (by rw [wireNet, hlocked, hnet]; rfl)
  intro v net hv
  by_cases hvx : v = x
  · have hlocked : c'.wireBinding x = some ⟨m, .locked⟩ := hchange.wireBinding_self
    have hpip : c'.pipBinding p = some ⟨m, .locked⟩ := hchange.pip_driver rfl rfl
    have hdrive : c'.drivingPip m x = some p := hchange.drivingPip_new
    have hsrc : c'.device.pipSrcWire p = .ok y := by
      rw [hchange.device_eq]
      exact hleg.src
    obtain rfl : m = net := by
      rw [hvx, wireNet, hlocked] at hv
      exact Option.some.inj hv
    rw [hvx]
    exact .pip hlocked hdrive hpip hsrc (h.keeps hc hk hy)
  · rw [wireNet, hchange.wireBinding_of_ne hvx] at hv
    exact h.keeps hc hk hv

theorem keepsPass (hd : c.device.AdjacencyConsistent) :
    Pass.clock.Keeps c fun _ _ c' _ _ => Anchored c c' := by
  refine ⟨id, ?_, ?_, ?_⟩
  · intro _ _ _ _ _ _ _ _ _ hc _ h hsource hbind
    exact h.source hc hsource hbind
  · intro _ _ _ _ _ _ _ _ _ hc _ h hgraft hbind
    exact h.graft hc (hgraft hd) hbind
  · intro _ _ _ _ _ _ _ _ _ _ _ h _ _
    exact h

end Anchored

/-- From every wire that a net holds after a clock pass, the pips lead up through wires and pips that
are locked for the net to its source, which is locked too, or to a wire that the net held before the
pass and from which they did not then. A net with no such wire has its sinks, and all that is above
them, locked. -/
theorem clocks_climb_locked {d : Device} (h : Reachable d c) (hd : c.device.AdjacencyConsistent)
    {log : Log} {o : PassOutcome} (ho : c.routeClocks log = .ok o) :
    (∀ w net, o.ctx.wireNet w = some net →
      o.ctx.ClimbsLocked net (fun x => o.ctx.LockedSource net x ∨ c.Loose net x) w) ∧
    ∀ net, (∀ x, ¬ c.Loose net x) → ∀ w, o.ctx.wireNet w = some net →
      o.ctx.wireBinding w = some ⟨net, .locked⟩ ∧
      o.ctx.ClimbsLocked net (o.ctx.LockedSource net) w := by
  have hpass : c.routePass log .clock = .ok o := ho
  obtain ⟨_, _, _, _, _, _, _, hleft⟩ :=
    routePass_keeps (Anchored.keepsPass hd) h.coherent (.start c) hpass
  refine ⟨hleft, fun net hnone w hw => ?_⟩
  have hclimbs : o.ctx.ClimbsLocked net (o.ctx.LockedSource net) w :=
    (hleft w net hw).imp fun x hx => hx.resolve_right (hnone x)
  exact ⟨hclimbs.locked, hclimbs⟩

/-! The clock of `crossing` holds the wire at its sink already, though weakly and without a driver. -/

def heldActs : List Act := crossingActs ++ [.bindWire (.tile 0 2) 1 .weak]

/-- The search for the sink ends where it starts, so nothing is bound above it. -/
private theorem held_clocks : ∃ c o report, Act.performAll { device := crossing } heldActs = .ok c ∧
    c.device.AdjacencyConsistent ∧ c.routeClocks {} = .ok o ∧ o.result = .ok report ∧
    1 ∈ c.passNets .clock ∧ o.ctx.IsSink 1 (.tile 0 2) ∧
    o.ctx.wireBinding (.tile 0 2) = some ⟨1, .weak⟩ := by
  have hrun : (do
      let c ← Act.performAll { device := crossing } heldActs
      let o ← PassOutcome.of ([0, 1].foldlM routeClock
        (({ ctx := c, log := {} } : PassState).note 2 "routing global clocks"))
      let n ← o.ctx.netlist.net 1
      let sink ← o.ctx.portWire ⟨3, Known.ident "CK"⟩
      return decide (c.netlist.nets.toList.map (·.name) = [Netlist.vccName, "clk"] ∧
        c.device.checkAdjacency ∧ o.result.toOption.isSome ∧ 1 ∈ c.passNets .clock ∧
        ⟨3, Known.ident "CK"⟩ ∈ n.users ∧ sink = some (.tile 0 2) ∧
        o.ctx.wireBinding (.tile 0 2) = some ⟨1, .weak⟩)) = Except.ok true := by decide +kernel
  obtain ⟨c, hc, hrun⟩ := bind_eq_ok_iff.1 hrun
  obtain ⟨o, ho, hrun⟩ := bind_eq_ok_iff.1 hrun
  obtain ⟨n, hn, hrun⟩ := bind_eq_ok_iff.1 hrun
  obtain ⟨sink, hsink, hrun⟩ := bind_eq_ok_iff.1 hrun
  obtain ⟨hnames, hadjacency, hresult, hclock, huser, rfl, hweak⟩ :=
    of_decide_eq_true (Except.ok.inj hrun)
  have hroute : c.routeClocks {} = .ok o := (routeClocks_crossing hnames).trans ho
  cases hreport : o.result with
  | error e =>
    rw [hreport] at hresult
    cases hresult
  | ok report =>
    exact ⟨c, o, report, hc, Device.checkAdjacency_iff.1 hadjacency, hroute, hreport, hclock,
      ⟨n, _, hn, huser, hsink⟩, hweak⟩

/-- The sink belongs to the clock after the pass, which came through, but is not locked. -/
theorem held_sink_unlocked : ∃ c o report net w, Reachable crossing c ∧
    c.device.AdjacencyConsistent ∧ c.routeClocks {} = .ok o ∧ o.result = .ok report ∧
    net ∈ c.passNets .clock ∧ o.ctx.IsSink net w ∧ o.ctx.wireNet w = some net ∧
    o.ctx.wireBinding w ≠ some ⟨net, .locked⟩ := by
  obtain ⟨c, o, report, hc, hd, ho, hreport, hclock, hsink, hweak⟩ := held_clocks
  have hreach : Reachable crossing c := Run.start.performAll (fun _ _ _ => trivial) hc
  refine ⟨c, o, report, 1, _, hreach, hd, ho, hreport, hclock, hsink, ?_, ?_⟩
  · rw [wireNet, hweak]
    rfl
  · rw [hweak]
    decide

private theorem crossing_clocks : ∃ c o, Act.performAll { device := crossing } crossingActs = .ok c ∧
    c.routeClocks {} = .ok o ∧ o.ctx.wireNet (.tile 0 2) = some 1 ∧
    o.ctx.drivingPip 1 (.tile 0 2) = some ⟨0, 1⟩ := by
  have hrun : (do
      let c ← Act.performAll { device := crossing } crossingActs
      let o ← PassOutcome.of ([0, 1].foldlM routeClock
        (({ ctx := c, log := {} } : PassState).note 2 "routing global clocks"))
      return decide (c.netlist.nets.toList.map (·.name) = [Netlist.vccName, "clk"] ∧
        o.ctx.wireNet (.tile 0 2) = some 1 ∧ o.ctx.drivingPip 1 (.tile 0 2) = some ⟨0, 1⟩)) =
      Except.ok true := by decide +kernel
  obtain ⟨c, hc, hrun⟩ := bind_eq_ok_iff.1 hrun
  obtain ⟨o, ho, hrun⟩ := bind_eq_ok_iff.1 hrun
  obtain ⟨hnames, hnet, hdrive⟩ := of_decide_eq_true (Except.ok.inj hrun)
  have hroute : c.routeClocks {} = .ok o := (routeClocks_crossing hnames).trans ho
  exact ⟨c, o, hc, hroute, hnet, hdrive⟩

theorem clocks_climb_locked_held :
    (∃ c o, Reachable crossing c ∧ c.routeClocks {} = .ok o ∧
      o.ctx.ClimbsLocked 1 (fun x => o.ctx.LockedSource 1 x ∨ c.Loose 1 x) (.tile 0 2)) ∧
    ∃ c o, Reachable crossing c ∧ c.wireHolds = ∅ ∧ c.routeClocks {} = .ok o ∧
      o.ctx.wireBinding (.tile 0 2) = some ⟨1, .locked⟩ ∧
      o.ctx.drivingPip 1 (.tile 0 2) = some ⟨0, 1⟩ ∧
      o.ctx.ClimbsLocked 1 (o.ctx.LockedSource 1) (.tile 0 2) := by
  constructor
  · obtain ⟨c, o, report, hc, hd, ho, -, -, -, hweak⟩ := held_clocks
    have hreach : Reachable crossing c := Run.start.performAll (fun _ _ _ => trivial) hc
    have hnet : o.ctx.wireNet (.tile 0 2) = some 1 := by
      rw [wireNet, hweak]
      rfl
    exact ⟨c, o, hreach, ho, (clocks_climb_locked hreach hd ho).1 _ _ hnet⟩
  · obtain ⟨c, o, hc, ho, hnet, hdrive⟩ := crossing_clocks
    obtain ⟨hreach, hd, hw, -⟩ := crossing_ready hc
    have hnone (x : WireId) : ¬ c.Loose 1 x := by
      rintro ⟨hheld, -⟩
      rw [wireNet, wireBinding_of_empty hw] at hheld
      cases hheld
    obtain ⟨hlocked, hclimbs⟩ := (clocks_climb_locked hreach hd ho).2 1 hnone _ hnet
    exact ⟨c, o, hreach, hw, ho, hlocked, hdrive, hclimbs⟩

end Context
end Interconnect
