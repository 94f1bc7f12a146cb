import Interconnect.Proofs.Routing.Eviction
/-!
# Paths that are found are granted

A search looks at the context as it is before its path is bound. Binding a pip of the path changes
one wire, which the rest of the path does not drive again, so what the search saw of the rest still
holds. Of the wires on the path only the sink may be another net's.
-/
namespace Interconnect.Context

variable {c c' : Context} {pass : Pass} {net : NetId} {sink w x : WireId} {p : PipId}
  {ps : List PipId} {i j nets pips : Nat}

/-! ### Along a path -/

/-- Pips are bound one after the other, each of them free until then. -/
inductive BindsFree (net : NetId) (s : Strength) : Context → List PipId → Context → Prop
  | nil {c : Context} : BindsFree net s c [] c
  | cons {c c₁ c' : Context} {p : PipId} {ps : List PipId} : c.pipBinding p = none →
      c.bindPip p net s = .ok (.ok c₁) → BindsFree net s c₁ ps c' → BindsFree net s c (p :: ps) c'

theorem Route.bindsFree (hc : c.Coherent) (hw : c.wireNet w = some net)
    (hadm : (c.wireBinding sink).admits net pass.strength = true)
    (h : c.Route pass net sink w ps) :
    ∃ c', BindsFree net pass.strength c ps c' ∧ c'.wireNet sink = some net ∧
      ∀ x, x ≠ sink → c.wireBinding x ≠ none → c'.wireBinding x = c.wireBinding x := by
  induction ps generalizing c w with
  | nil =>
    obtain rfl : w = sink := h
    exact ⟨c, .nil, hw, fun _ _ _ => rfl⟩
  | cons p ps ih =>
    obtain ⟨hfree, c₁, hbind⟩ := h.granted hc hw hadm
    obtain ⟨x, t, hchange, hx, hown, hrest, hadm₁⟩ := h.next hc hadm hbind
    obtain ⟨c', hbinds, hsink, hkept⟩ := ih (hc.bindPip hbind) hown hadm₁ hrest
    refine ⟨c', .cons hfree hbind hbinds, hsink, ?_⟩
    intro y hy hheld
    have hyx : y ≠ x := by
      rintro rfl
      exact hx.elim hy hheld
    have hsame := hchange.wireBinding_of_ne hyx
    rw [hkept y hy (hsame ▸ hheld), hsame]

/-! ### Along a pass -/

/-- A net is bound at its source wire, or through a pip that is free: one wire or one pip is counted. -/
inductive Join (pass : Pass) (net : NetId) (c c' : Context) : Nat → Nat → Prop
  | source {w : WireId} : c.sourceWire net = .ok (some w) →
      c.bindWire w net pass.strength = .ok (.ok c') → Join pass net c c' 1 0
  | pip {p : PipId} : c.pipBinding p = none →
      c.bindPip p net pass.strength = .ok (.ok c') → Join pass net c c' 0 1

/-- Every wire that is taken from a net goes to the given net, at one of the given net's ends. -/
def TakesEnds (c : Context) (net : NetId) (c' : Context) : Prop :=
  ∀ w m, c.wireNet w = some m → c'.wireNet w ≠ some m → c'.wireNet w = some net ∧ c.IsEnd net w

/-- Nets of a pass are bound, one wire or pip after the other, and take wires only at their ends. -/
inductive Joins (pass : Pass) (c : Context) : Context → Nat → Nat → Prop
  | start : Joins pass c c 0 0
  | step {c₁ c₂ : Context} {net : NetId} {nets pips i j : Nat} : Joins pass c c₁ nets pips →
      net ∈ c.passNets pass → Join pass net c₁ c₂ i j → c₁.TakesEnds net c₂ →
      Joins pass c c₂ (nets + i) (pips + j)

theorem Change.takesEnds {t : Tenure} (hchange : c.Change c' x (some t)) (ht : t.hold.net = net)
    (hx : c.wireBinding x = none ∨ c.IsEnd net x) : c.TakesEnds net c' := by
  intro w m hw hlost
  by_cases hwx : w = x
  · subst w
    refine ⟨by rw [hchange.wireNet_new, ht], hx.resolve_left fun hfree => ?_⟩
    rw [wireNet, hfree] at hw
    cases hw
  · rw [wireNet, hchange.wireBinding_of_ne hwx] at hlost
    exact absurd hw hlost

theorem Join.change (hc : c.Coherent) (h : Join pass net c c' i j) :
    c'.Coherent ∧ ∃ x t, c.Change c' x (some t) ∧
      t.hold = (c.wireBinding x).rebound net pass.strength ∧
      (c.wireBinding x).admits net pass.strength = true := by
  cases h with
  | source hsource hbind =>
    obtain ⟨_, hadm, hchange⟩ := bindWire_change hc hbind
    exact ⟨hc.bindWire hbind, _, _, hchange, rfl, hadm⟩
  | pip hfree hbind =>
    obtain ⟨x, _, _, _, _, hadm, hchange⟩ := bindPip_change hc hbind
    exact ⟨hc.bindPip hbind, x, _, hchange, rfl, hadm⟩

/-- A wire that a pass has taken is held as strongly as the pass binds, so no net of the pass takes it
again. -/
theorem Joins.taken (hc : c.Coherent) (h : Joins pass c c' nets pips) :
    c'.Coherent ∧ c'.unrouted = c.unrouted ∧ ∀ w m, c.wireNet w = some m →
      c'.wireNet w = some m ∨ ∃ net held, net ∈ c.passNets pass ∧ c.IsEnd net w ∧
        c'.wireBinding w = some held ∧ held.net = net ∧ pass.strength ≤ held.strength := by
  induction h with
  | start => exact ⟨hc, rfl, fun w m hw => Or.inl hw⟩
  | @step c₁ c₂ net _ _ _ _ _ hnet hjoin htakes ih =>
    obtain ⟨hc₁, hu, hheld⟩ := ih
    obtain ⟨hc₂, x, t, hchange, hhold, hadm⟩ := hjoin.change hc₁
    have hnew : t.hold.net = net ∧ pass.strength ≤ t.hold.strength := by
      rw [hhold]
      exact ⟨Binding.rebound_net, Binding.le_rebound⟩
    refine ⟨hc₂, hchange.unrouted.trans hu, fun w m hw => ?_⟩
    by_cases hlost : c₂.wireNet w = some m
    · exact Or.inl hlost
    right
    by_cases hx : w = x
    · subst w
      refine ⟨net, t.hold, hnet, ?_, hchange.wireBinding_self, hnew⟩
      rcases hheld x m hw with hown | ⟨n, held, _, hend, hb, hn, hstrength⟩
      · exact isEnd_of_unrouted hu (htakes x m hown hlost).2
      · -- the net was admitted, so it is the one that holds the wire already
        rw [hb] at hadm
        rcases Binding.admits_eq_true_iff.1 hadm held rfl with hsame | hlt
        · rwa [← hsame, hn]
        · exact absurd hlt (Nat.not_lt_of_le hstrength)
    · have hsame := hchange.wireBinding_of_ne hx
      have hlost₁ : c₁.wireNet w ≠ some m := by
        rwa [wireNet, hsame] at hlost
      obtain ⟨n, held, hn, hend, hb, hheld⟩ := (hheld w m hw).resolve_left hlost₁
      exact ⟨n, held, hn, hend, hsame.trans hb, hheld⟩

theorem joins_keeps (hd : c.device.AdjacencyConsistent) :
    pass.Keeps c fun _ _ c' nets pips => Joins pass c c' nets pips := by
  refine ⟨id, ?_, ?_, ?_⟩
  · intro net _ _ c₁ c₂ _ _ w hnet hc _ hjoins hsource hbind
    obtain ⟨_, _, hchange⟩ := bindWire_change hc hbind
    have htakes := hchange.takesEnds Binding.rebound_net (Or.inr (Or.inl hsource))
    exact hjoins.step hnet (.source hsource hbind) htakes
  · intro net _ _ c₁ c₂ _ _ p hnet hc _ hjoins hgraft hbind
    obtain ⟨x, _, _, hfree, _, hchange⟩ := (hgraft hd).change hc hbind
    have htakes := hchange.takesEnds Binding.rebound_net (hfree.imp And.left Or.inr)
    exact hjoins.step hnet (.pip (hgraft hd).unbound hbind) htakes
  · intro _ _ _ _ _ _ _ _ _ _ _ hjoins _ _
    exact hjoins

/-- Where the pips listed uphill of a wire drive it, a path that a search has found can be bound to
the end if the net may have the sink: each pip is free when its turn comes, and no wire on the way is
another net's. No pass fails over a path, and all that a pass takes from other nets are ends of the
nets that it routes. -/
theorem found_paths_bound {d : Device} (h : Reachable d c) (hd : c.device.AdjacencyConsistent)
    (pass : Pass) :
    (∀ net sink path, c.device.IsHandle sink →
      (c.wireBinding sink).admits net pass.strength = true →
      c.searchUphill pass net sink = .ok (some path) →
      ∃ c', BindsFree net pass.strength c path c' ∧ c'.wireNet sink = some net ∧
        ∀ w, w ≠ sink → c.wireBinding w ≠ none → c'.wireBinding w = c.wireBinding w) ∧
    ∀ log o, c.routePass log pass = .ok o →
      (∀ name cause, o.result ≠ .error (.pathRefused name cause)) ∧
      (∃ nets pips, Joins pass c o.ctx nets pips ∧
        ∀ report, o.result = .ok report → nets = report.nets ∧ pips = report.pipsBound) ∧
      ∀ w m, c.wireNet w = some m → o.ctx.wireNet w ≠ some m →
        ∃ net ∈ c.passNets pass, o.ctx.wireNet w = some net ∧ c.IsEnd net w := by
  have hc := h.coherent
  constructor
  · intro net sink path hsink hadm hsearch
    obtain ⟨w, hw, hroute⟩ := searchUphill_route hd hsink hsearch
    exact hroute.bindsFree hc hw hadm
  · intro log o ho
    obtain ⟨_, _, hdone, _, _, nets, pips, hjoins⟩ := routePass_keeps (joins_keeps hd) hc .start ho
    refine ⟨fun _ _ he => routePass_granted hc hd ho he trivial, ?_, ?_⟩
    · cases hresult : o.result with
      | error e => exact ⟨nets, pips, hjoins, fun report hreport => by cases hreport⟩
      | ok report =>
        refine ⟨_, _, hdone report hresult, fun report' hreport => ?_⟩
        obtain rfl := Except.ok.inj hreport
        exact ⟨rfl, rfl⟩
    · intro w m hw hlost
      obtain ⟨_, _, htaken⟩ := hjoins.taken hc
      obtain ⟨net, held, hnet, hend, hb, rfl, _⟩ := (htaken w m hw).resolve_left hlost
      exact ⟨held.net, hnet, by rw [wireNet, hb]; rfl, hend⟩

/-- Power has routed to the sink when the clock, bound at its source already, finds its way there. -/
theorem found_paths_bound_crossing : ∃ c o path c', Reachable crossing c ∧
    c.device.AdjacencyConsistent ∧ c.wireNet (.tile 0 2) = some 0 ∧
    c.searchUphill .clock 1 (.tile 0 2) = .ok (some path) ∧
    BindsFree 1 .locked c path c' ∧ c'.wireNet (.tile 0 2) = some 1 ∧
    c.routePass {} .clock = .ok o ∧ o.ctx.wireNet (.tile 0 2) ≠ some 0 ∧
    ∃ net ∈ c.passNets .clock, o.ctx.wireNet (.tile 0 2) = some net ∧ c.IsEnd net (.tile 0 2) := by
  have hrun : (do
      let c ← Act.performAll { device := crossing }
        (crossingActs ++ [.route .constant {}, .bindWire (.tile 0 1) 1 .locked])
      let found ← c.searchUphill .clock 1 (.tile 0 2)
      let o ← PassOutcome.of ([0, 1].foldlM routeClock
        (({ ctx := c, log := {} } : PassState).note 2 "routing global clocks"))
      return decide (c.netlist.nets.toList.map (·.name) = [Netlist.vccName, "clk"] ∧
        c.device.checkAdjacency = true ∧ c.wireNet (.tile 0 2) = some 0 ∧
        (c.wireBinding (.tile 0 2)).admits 1 .locked = true ∧ found.isSome ∧
        c.device.canonicalWire ⟨0, 2⟩ = .ok (.tile 0 2) ∧
        o.ctx.wireNet (.tile 0 2) ≠ some 0)) = Except.ok true := by decide +kernel
  obtain ⟨c, hc, hrun⟩ := bind_eq_ok_iff.1 hrun
  obtain ⟨found, hfound, hrun⟩ := bind_eq_ok_iff.1 hrun
  obtain ⟨o, ho, hrun⟩ := bind_eq_ok_iff.1 hrun
  obtain ⟨hnames, hadjacency, hpower, hadm, hsome, hhandle, htaken⟩ :=
    of_decide_eq_true (Except.ok.inj hrun)
  obtain ⟨path, rfl⟩ := Option.isSome_iff_exists.1 hsome
  have hreach : Reachable crossing c := Run.start.performAll (fun _ _ _ => trivial) hc
  have hd := Device.checkAdjacency_iff.1 hadjacency
  have hroute : c.routePass {} .clock = .ok o := (routeClocks_crossing hnames).trans ho
  obtain ⟨hfree, hpass⟩ := found_paths_bound hreach hd .clock
  obtain ⟨c', hbinds, hsink, _⟩ := hfree 1 _ path ⟨_, hhandle⟩ hadm hfound
  exact ⟨c, o, path, c', hreach, hd, hpower, hfound, hbinds, hsink, hroute, htaken,
    (hpass {} o hroute).2.2 _ 0 hpower htaken⟩

end Interconnect.Context
