import Interconnect.Proofs.Routing.Tree
/-!
# Where clocks take wires of power and ground

Clocks are bound more strongly than power and ground, so a clock takes their wires where its own
source or one of its sinks is. What power or ground fed through such a wire is cut off from its
source there. Nothing else is taken, and nothing is taken from a net that is a clock only.
-/
namespace Interconnect.Context

variable {c c' : Context} {pass : Pass} {net m : NetId} {w x : WireId} {p : PipId} {t : Tenure}
  {arcs : List (NetId × PortRef)}

theorem passNets_of_unrouted (h : c'.unrouted = c.unrouted) (pass : Pass) :
    c'.passNets pass = c.passNets pass := by
  cases pass with
  | constant =>
    rw [passNets, passNets, netByName_of_unrouted h]
  | clock =>
    have hclock : c'.isClockNet = c.isClockNet := by
      funext net
      exact isClockNet_of_unrouted h net
    rw [passNets, passNets, size_nets_of_unrouted h, hclock]

/-- Whether a wire is a net's source, or at a port that uses the net. -/
def IsEnd (c : Context) (net : NetId) (w : WireId) : Prop :=
  c.sourceWire net = .ok (some w) ∨ c.IsSink net w

theorem isEnd_of_unrouted (h : c'.unrouted = c.unrouted) (hw : c'.IsEnd net w) : c.IsEnd net w :=
  hw.imp (sourceWire_of_unrouted h) (isSink_of_unrouted h)

/-- Whether a clock other than the net has locked a wire at one of its own ends. -/
def Taken (c : Context) (net : NetId) (w : WireId) : Prop :=
  ∃ m, m ≠ net ∧ m ∈ c.passNets .clock ∧ c.wireBinding w = some ⟨m, .locked⟩ ∧ c.IsEnd m w

/-- Whether a climb may stop at a wire: at the source of the net, or, if the net is power or ground,
where a clock has taken the wire. -/
def Stop (c : Context) (net : NetId) (w : WireId) : Prop :=
  c.AtSource net w ∨ net ∈ c.passNets .constant ∧ c.Taken net w

/-- A net of a pass takes a wire: one that is free, or one of the net's own ends. -/
structure Claims (c : Context) (pass : Pass) (m : NetId) (x : WireId) (t : Tenure) (c' : Context) :
    Prop where
  coherent : c'.Coherent
  change : c.Change c' x (some t)
  hold : t.hold = (c.wireBinding x).rebound m pass.strength
  admits : (c.wireBinding x).admits m pass.strength = true
  net : m ∈ c.passNets pass
  own : c.wireNet x = some m → c.sourceWire m = .ok (some x)
  free : c.wireBinding x = none ∨ c.IsEnd m x

/-- What holds all along the two passes: wires are locked, or held more weakly by power or ground,
and from every wire of a net, and from the wire at every arc that was counted as routed, the pips lead
up to where a climb may stop. -/
structure Standing (arcs : List (NetId × PortRef)) (c : Context) : Prop where
  held : ∀ w h, c.wireBinding w = some h →
    h.strength = .locked ∨ h.strength = .strong ∧ h.net ∈ c.passNets .constant
  climbs : ∀ w net, c.wireNet w = some net → c.Climbs net (c.Stop net) w
  arcs : ∀ net user, (net, user) ∈ arcs →
    ∃ w, c.portWire user = .ok (some w) ∧ c.Climbs net (c.Stop net) w

namespace Claims

variable (hk : c.Claims pass m x t c')

include hk

theorem net_new : t.hold.net = m := by
  rw [hk.hold, Binding.rebound_net]

theorem stop (h : Standing arcs c) (hx : c.wireNet x = some net) : c'.Stop net x := by
  by_cases hm : net = m
  · subst net
    have hsource := sourceWire_of_unrouted hk.change.unrouted.symm (hk.own hx)
    exact Or.inl ⟨hsource, by rw [hk.change.wireNet_new, hk.net_new]⟩
  · obtain ⟨held, hb, rfl⟩ := Option.map_eq_some_iff.1 hx
    have hweaker : held.strength < pass.strength := by
      have hadm := hk.admits
      rw [hb] at hadm
      exact (Binding.admits_eq_true_iff.1 hadm held rfl).resolve_left hm
    rcases h.held x held hb with hlocked | ⟨hstrong, hconstant⟩
    · rw [hlocked] at hweaker
      exact absurd hweaker (Strength.not_locked_lt _)
    · -- only a clock is stronger than that
      obtain rfl : pass = .clock := by
        rw [hstrong] at hweaker
        cases pass with
        | constant => exact absurd hweaker (by decide)
        | clock => rfl
      have hhold : t.hold = ⟨m, .locked⟩ := by
        rw [hk.hold, hb]
        exact Binding.rebound_of_other (by simpa using hm)
      have hend : c.IsEnd m x := hk.free.resolve_left (by simp [hb])
      refine Or.inr ⟨?_, m, Ne.symm hm, ?_, ?_, isEnd_of_unrouted hk.change.unrouted.symm hend⟩
      · rwa [passNets_of_unrouted hk.change.unrouted]
      · rw [passNets_of_unrouted hk.change.unrouted]
        exact hk.net
      · rw [hk.change.wireBinding_self, ← hhold]
        rfl

theorem stop_of_stop (h : Standing arcs c) (hw : c.Stop net w) : c'.Stop net w := by
  have hnets := passNets_of_unrouted hk.change.unrouted
  by_cases hx : w = x
  · subst x
    rcases hw with hsource | ⟨hconstant, n, hn, hclock, hb, hend⟩
    · exact hk.stop h hsource.2
    · have hadm := hk.admits
      rw [hb] at hadm
      obtain rfl : m = n := Binding.admits_locked hadm
      have hhold : t.hold = ⟨m, .locked⟩ := by rw [hk.hold, hb, Binding.rebound_locked]
      refine Or.inr ⟨by rwa [hnets], m, hn, by rwa [hnets], ?_,
        isEnd_of_unrouted hk.change.unrouted.symm hend⟩
      rw [hk.change.wireBinding_self, ← hhold]
      rfl
  · rcases hw with hsource | ⟨hconstant, n, hn, hclock, hb, hend⟩
    · exact Or.inl ((atSource_of_change hk.change hx).2 hsource)
    · refine Or.inr ⟨by rwa [hnets], n, hn, by rwa [hnets], ?_,
        isEnd_of_unrouted hk.change.unrouted.symm hend⟩
      rw [hk.change.wireBinding_of_ne hx, hb]

theorem climbs (h : Standing arcs c) (hw : c.Climbs net (c.Stop net) w) :
    c'.Climbs net (c'.Stop net) w :=
  hw.change hk.coherent hk.change (fun _ => hk.stop_of_stop h) (hk.stop h)

theorem held_new (h : Standing arcs c) :
    t.hold.strength = .locked ∨ t.hold.strength = .strong ∧ m ∈ c.passNets .constant := by
  have hnet := hk.net
  cases pass with
  | clock =>
    have hle : Strength.locked ≤ t.hold.strength := hk.hold ▸ Binding.le_rebound
    exact Or.inl (Strength.eq_locked_of_le hle)
  | constant =>
    by_cases hown : ∃ s, c.wireBinding x = some ⟨m, s⟩
    · obtain ⟨s, hs⟩ := hown
      rw [hk.hold, hs, Binding.rebound_own]
      rcases h.held x _ hs with hlocked | ⟨hstrong, _⟩
      · obtain rfl : s = .locked := hlocked
        exact Or.inl rfl
      · obtain rfl : s = .strong := hstrong
        exact Or.inr ⟨rfl, hnet⟩
    · rw [hk.hold, Binding.rebound_of_other]
      · exact Or.inr ⟨rfl, hnet⟩
      · rintro ⟨n, s⟩ hs rfl
        exact hown ⟨s, hs⟩

theorem standing (h : Standing arcs c) (hclimb : c'.Climbs m (c'.Stop m) x) :
    Standing arcs c' where
  held w held hw := by
    rw [passNets_of_unrouted hk.change.unrouted]
    by_cases hx : w = x
    · rw [hx, hk.change.wireBinding_self] at hw
      obtain rfl := Option.some.inj hw
      rw [hk.net_new]
      exact hk.held_new h
    · rw [hk.change.wireBinding_of_ne hx] at hw
      exact h.held w held hw
  climbs w net hw := by
    by_cases hx : w = x
    · rw [hx, hk.change.wireNet_new, hk.net_new] at hw
      obtain rfl := Option.some.inj hw
      exact hx ▸ hclimb
    · rw [wireNet, hk.change.wireBinding_of_ne hx] at hw
      exact hk.climbs h (h.climbs w net hw)
  arcs net user huser := by
    obtain ⟨w, hport, hclimbs⟩ := h.arcs net user huser
    refine ⟨w, ?_, hk.climbs h hclimbs⟩
    rw [portWire_of_unrouted hk.change.unrouted]
    exact hport

end Claims

namespace Standing

theorem source (h : Standing arcs c) (hc : c.Coherent) (hnet : net ∈ c.passNets pass)
    (hsource : c.sourceWire net = .ok (some w))
    (hbind : c.bindWire w net pass.strength = .ok (.ok c')) : Standing arcs c' := by
  obtain ⟨_, hadm, hchange⟩ := bindWire_change hc hbind
  have hk : c.Claims pass net w _ c' :=
    ⟨hc.bindWire hbind, hchange, rfl, hadm, hnet, fun _ => hsource, Or.inr (Or.inl hsource)⟩
  refine hk.standing h (.stop (Or.inl ⟨sourceWire_of_unrouted hchange.unrouted.symm hsource, ?_⟩))
  rw [hchange.wireNet_new, hk.net_new]

theorem graft (h : Standing arcs c) (hc : c.Coherent) (hnet : net ∈ c.passNets pass)
    (hgraft : c.Graft pass net p) (hbind : c.bindPip p net pass.strength = .ok (.ok c')) :
    Standing arcs c' := by
  obtain ⟨y, hy, hleg⟩ := hgraft.leg
  obtain ⟨x, hx, hforeign, hfree, hadm, hchange⟩ := hgraft.change hc hbind
  have hc' := hc.bindPip hbind
  have hk : c.Claims pass net x _ c' :=
    ⟨hc', hchange, rfl, hadm, hnet, fun hown => absurd hown hforeign,
      hfree.imp And.left Or.inr⟩
  have hdrive : c'.drivingPip net x = some p := by
    rw [← hk.net_new]
    exact hchange.drivingPip_new
  have hsrc : c'.device.pipSrcWire p = .ok y := by
    rw [hchange.device_eq]
    exact hleg.src
  refine hk.standing h (.pip ?_ hdrive ((hc'.pip_iff p net).2 ⟨x, hdrive⟩) hsrc ?_)
  · rw [hchange.wireNet_new, hk.net_new]
  · exact hk.climbs h (h.climbs y net hy)

theorem start (hw : c.wireHolds = ∅) : Standing [] c := by
  have hbinding := wireBinding_of_empty hw
  refine ⟨?_, ?_, ?_⟩
  · intro w held h
    simp [hbinding] at h
  · intro w net h
    simp [wireNet, hbinding] at h
  · intro net user h
    cases h

theorem keeps (before : List (NetId × PortRef)) (hd : c.device.AdjacencyConsistent) :
    pass.Keeps c fun _ arcs c _ _ => Standing (before ++ arcs) c := by
  refine ⟨id, ?_, ?_, ?_⟩
  · intro net rest arcs c c' n k w hnet hc hu h hsource hbind
    rw [← passNets_of_unrouted hu] at hnet
    exact h.source hc hnet hsource hbind
  · intro net rest arcs c c' n k p hnet hc hu h hgraft hbind
    rw [← passNets_of_unrouted hu] at hnet
    exact h.graft hc hnet (hgraft hd) hbind
  · intro net rest arcs c n k user sink _ _ _ h hport hsink
    refine ⟨h.held, h.climbs, fun m u hu => ?_⟩
    rw [← List.append_assoc] at hu
    rcases List.mem_append.1 hu with hu | hu
    · exact h.arcs m u hu
    · obtain ⟨rfl, rfl⟩ : m = net ∧ u = user := by simpa using hu
      exact ⟨sink, hport, h.climbs sink m (hsink hd)⟩

end Standing

/-! ### One pass after the other -/

/-- The arcs that power, ground and then the clocks count as routed. -/
def preRouteArcs (c : Context) (log : Log) : List (NetId × PortRef) :=
  c.constantArcs log ++ match c.routeConstants log with
    | .ok o => o.ctx.clockArcs o.log
    | .error _ => []

theorem preRoute_passes {log log' : Log} {summary : PreRouteSummary}
    (h : c.preRoute log = .ok (.ok summary, c', log')) :
    ∃ constants clocks, c.routePass log .constant = .ok constants ∧
      constants.result = .ok summary.constants ∧
      constants.ctx.routePass constants.log .clock = .ok clocks ∧
      clocks.result = .ok summary.clocks ∧
      ∃ places, c' = { clocks.ctx with sinkLocations := places } := by
  obtain ⟨constants, hconstants, h⟩ := bind_eq_ok_iff.1 h
  cases hfirst : constants.result with
  | error e => simp [hfirst, pure, Except.pure] at h
  | ok first =>
    simp only [hfirst] at h
    obtain ⟨clocks, hclocks, h⟩ := bind_eq_ok_iff.1 h
    cases hsecond : clocks.result with
    | error e => simp [hsecond, pure, Except.pure] at h
    | ok second =>
      simp only [hsecond] at h
      obtain ⟨sinks, hsinks, h⟩ := bind_eq_ok_iff.1 h
      obtain ⟨hsummary, hctx⟩ := Prod.mk.inj (Except.ok.inj h)
      obtain rfl := Except.ok.inj hsummary
      obtain ⟨rfl, _⟩ := Prod.mk.inj hctx
      exact ⟨constants, clocks, hconstants, hfirst, hclocks, hsecond, findSinkLocations_ctx hsinks⟩

theorem Climbs.locate {stop : WireId → Prop} (h : c.Climbs net stop w)
    (places : Std.ExtTreeMap WireId (Int × Int)) :
    ({ c with sinkLocations := places } : Context).Climbs net stop w := by
  induction h with
  | stop h => exact .stop h
  | pip hnet hdrive hpip hsrc _ ih => exact .pip hnet hdrive hpip hsrc ih

/-- After both passes the pips lead from the sink of every arc counted as routed up to the source of
its net, through wires and pips of the net, unless the net is power or ground: then they may lead to
a wire that a clock has taken, at its own source or one of its sinks. -/
theorem preRoute_climbs {d : Device} (h : Reachable d c) (hd : c.device.AdjacencyConsistent)
    (hw : c.wireHolds = ∅) {log log' : Log} {summary : PreRouteSummary}
    (hroute : c.preRoute log = .ok (.ok summary, c', log')) :
    (c.preRouteArcs log).length = summary.constants.arcsRouted + summary.clocks.arcsRouted ∧
    ∀ net user, (net, user) ∈ c.preRouteArcs log → ∃ w, c'.portWire user = .ok (some w) ∧
      c'.Climbs net (c'.Stop net) w ∧
      (net ∉ c'.passNets .constant → c'.Climbs net (c'.AtSource net) w) := by
  obtain ⟨constants, clocks, hconstants, hfirst, hclocks, hsecond, places, rfl⟩ :=
    preRoute_passes hroute
  have harcs : c.preRouteArcs log =
      c.passArcs log .constant ++ constants.ctx.passArcs constants.log .clock := by
    rw [preRouteArcs, show c.routeConstants log = .ok constants from hconstants]
    rfl
  obtain ⟨hc₁, hu₁, hstanding₁, _⟩ :=
    routePass_keeps (Standing.keeps [] hd) h.coherent (.start hw) hconstants
  have hd₁ : constants.ctx.device.AdjacencyConsistent := by
    rwa [device_of_unrouted hu₁]
  have hstanding₁ : Standing (c.passArcs log .constant ++ []) constants.ctx := by
    rw [List.append_nil]
    exact hstanding₁ _ hfirst
  obtain ⟨_, _, hstanding₂, _⟩ := routePass_keeps (Standing.keeps _ hd₁) hc₁ hstanding₁ hclocks
  have hstanding : Standing (c.preRouteArcs log) clocks.ctx := by
    rw [harcs]
    exact hstanding₂ _ hsecond
  refine ⟨?_, fun net user huser => ?_⟩
  · have hcount₁ := (routePass_counts h.coherent hconstants hfirst).routed
    have hcount₂ := (routePass_counts hc₁ hclocks hsecond).routed
    rw [harcs, List.length_append, ← hcount₁, ← hcount₂]
  · obtain ⟨w, hport, hclimbs⟩ := hstanding.arcs net user huser
    refine ⟨w, hport, hclimbs.locate places, fun hconstant => ?_⟩
    refine (hclimbs.imp fun x hx => ?_).locate places
    exact hx.resolve_right fun hx => hconstant hx.1

/-- The clock takes the wire at its sink, which power has routed to a sink of its own. -/
private theorem crossing_preRoute : ∃ c summary c' log',
    Act.performAll { device := crossing } crossingActs = .ok c ∧
    c.preRoute {} = .ok (.ok summary, c', log') ∧
    (0, ⟨2, Known.ident "CK"⟩) ∈ c.preRouteArcs {} ∧
    c'.portWire ⟨2, Known.ident "CK"⟩ = .ok (some (.tile 0 2)) ∧
    c'.wireNet (.tile 0 2) = some 1 ∧ (1, ⟨3, Known.ident "CK"⟩) ∈ c.preRouteArcs {} ∧
    c'.portWire ⟨3, Known.ident "CK"⟩ = .ok (some (.tile 0 2)) ∧
    c'.drivingPip 1 (.tile 0 2) = some ⟨0, 1⟩ ∧ 1 ∉ c'.passNets .constant := by
  have hrun : (do
      let c ← Act.performAll { device := crossing } crossingActs
      let constants ← c.routeConstants {}
      let start := ({ ctx := constants.ctx, log := constants.log } : PassState).note 2
        "routing global clocks"
      let clocks ← PassOutcome.of ([0, 1].foldlM routeClock start)
      let s ← [0, 1].foldlM locateNet { ctx := clocks.ctx, log := clocks.log }
      let sink ← s.ctx.portWire ⟨2, Known.ident "CK"⟩
      let other ← s.ctx.portWire ⟨3, Known.ident "CK"⟩
      return decide (constants.ctx.netlist.nets.toList.map (·.name) = [Netlist.vccName, "clk"] ∧
        clocks.ctx.netlist.nets.toList.map (·.name) = [Netlist.vccName, "clk"] ∧
        constants.result.toOption.isSome ∧ clocks.result.toOption.isSome ∧
        (0, ⟨2, Known.ident "CK"⟩) ∈ c.constantArcs {} ∧ sink = some (.tile 0 2) ∧
        s.ctx.wireNet (.tile 0 2) = some 1 ∧
        (1, ⟨3, Known.ident "CK"⟩) ∈ collect routeClock (fun s _ net => clockNetArcs s net) start [0, 1] ∧
        other = some (.tile 0 2) ∧ s.ctx.drivingPip 1 (.tile 0 2) = some ⟨0, 1⟩ ∧
        1 ∉ s.ctx.passNets .constant)) = Except.ok true := by decide +kernel
  obtain ⟨c, hc, hrun⟩ := bind_eq_ok_iff.1 hrun
  obtain ⟨constants, hconstants, hrun⟩ := bind_eq_ok_iff.1 hrun
  obtain ⟨clocks, hclocks, hrun⟩ := bind_eq_ok_iff.1 hrun
  obtain ⟨s, hs, hrun⟩ := bind_eq_ok_iff.1 hrun
  obtain ⟨sink, hsink, hrun⟩ := bind_eq_ok_iff.1 hrun
  obtain ⟨other, hother, hrun⟩ := bind_eq_ok_iff.1 hrun
  obtain ⟨hnames₁, hnames₂, hfirst, hsecond, harc, rfl, hnet, harc', rfl, hdrive, hconstant⟩ :=
    of_decide_eq_true (Except.ok.inj hrun)
  have hclocks' : constants.ctx.routeClocks constants.log = .ok clocks :=
    (routeClocks_crossing hnames₁).trans hclocks
  obtain ⟨log, hsinks⟩ :
      ∃ log, clocks.ctx.findSinkLocations clocks.log = .ok ⟨s.ctx, log, s.located⟩ := by
    rw [findSinkLocations, netsByName_crossing hnames₂, hs]
    exact ⟨_, rfl⟩
  have harcs : (1, ⟨3, Known.ident "CK"⟩) ∈ c.preRouteArcs {} := by
    rw [preRouteArcs, hconstants]
    refine List.mem_append_right _ ?_
    change _ ∈ constants.ctx.clockArcs constants.log
    rw [clockArcs, netsByName_crossing hnames₁]
    exact harc'
  cases hfirst' : constants.result with
  | error e => simp [hfirst', Except.toOption] at hfirst
  | ok first =>
    cases hsecond' : clocks.result with
    | error e => simp [hsecond', Except.toOption] at hsecond
    | ok second =>
      have hroute : c.preRoute {} = .ok (.ok ⟨first, second, s.located⟩, s.ctx, log) := by
        simp only [preRoute, hconstants, hfirst', hclocks', hsecond', hsinks, bind, Except.bind, pure,
          Except.pure]
      exact ⟨c, _, s.ctx, log, hc, hroute, List.mem_append_left _ harc, hsink, hnet, harcs, hother,
        hdrive, hconstant⟩

/-- The climb from the sink of power ends at the sink itself: the wire belongs to the clock. -/
theorem crossing_cut : ∃ c summary c' log' net user w, Reachable crossing c ∧
    c.device.AdjacencyConsistent ∧ c.wireHolds = ∅ ∧ c.pipHolds = ∅ ∧
    c.preRoute {} = .ok (.ok summary, c', log') ∧ (net, user) ∈ c.preRouteArcs {} ∧
    c'.portWire user = .ok (some w) ∧ ¬ c'.Climbs net (c'.AtSource net) w := by
  obtain ⟨c, summary, c', log', hc, hroute, harc, hport, hnet, -⟩ := crossing_preRoute
  obtain ⟨hreach, hd, hw, hp⟩ := crossing_ready hc
  refine ⟨c, summary, c', log', 0, _, _, hreach, hd, hw, hp, hroute, harc, hport, fun hclimbs => ?_⟩
  cases hclimbs with
  | stop hstop => exact absurd (hnet.symm.trans hstop.2) (by decide)
  | pip hheld => exact absurd (hnet.symm.trans hheld) (by decide)

/-- Power is cut off at its sink, and the clock climbs from there through its pip to its source. -/
theorem preRoute_climbs_crossing : ∃ c summary c' log' w, Reachable crossing c ∧
    c.preRoute {} = .ok (.ok summary, c', log') ∧
    c'.portWire ⟨2, Known.ident "CK"⟩ = .ok (some w) ∧ c'.Climbs 0 (c'.Stop 0) w ∧
    c'.portWire ⟨3, Known.ident "CK"⟩ = .ok (some w) ∧ c'.drivingPip 1 w = some ⟨0, 1⟩ ∧
    c'.Climbs 1 (c'.AtSource 1) w := by
  obtain ⟨c, summary, c', log', hc, hroute, harc, hsink, -, harc', hother, hdrive, hconstant⟩ :=
    crossing_preRoute
  obtain ⟨hreach, hd, hw, _⟩ := crossing_ready hc
  obtain ⟨-, hclimbs⟩ := preRoute_climbs hreach hd hw hroute
  obtain ⟨w, hport, hstop, -⟩ := hclimbs _ _ harc
  obtain rfl := Option.some.inj (Except.ok.inj (hsink.symm.trans hport))
  obtain ⟨x, hport', -, hsource⟩ := hclimbs _ _ harc'
  obtain rfl := Option.some.inj (Except.ok.inj (hother.symm.trans hport'))
  exact ⟨c, summary, c', log', _, hreach, hroute, hsink, hstop, hother, hdrive, hsource hconstant⟩

end Interconnect.Context
