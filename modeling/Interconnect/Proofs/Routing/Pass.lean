import Interconnect.Proofs.Routing.Ends
import Interconnect.Proofs.Routing.Path
/-!
# What a pass keeps

A pass binds source wires and, pip by pip, the paths that its searches find. Whatever each of these
steps keeps, the pass keeps, and a pass that fails leaves it behind as well.
-/
namespace Interconnect

/-! ### What routing leaves alone -/

namespace Context

variable {c c' : Context} {pass : Pass} {net : NetId} {sink w x : WireId} {p : PipId}
  {ps : List PipId}

theorem net_of_unrouted (h : c'.unrouted = c.unrouted) {n' : Net}
    (hn : c'.netlist.net net = .ok n') :
    ∃ n, c.netlist.net net = .ok n ∧ n.unrouted = n'.unrouted := by
  have hnets := getElem?_nets_of_unrouted h net
  rw [fetch_eq_ok_iff.1 hn] at hnets
  obtain ⟨n, hn', hu⟩ := Option.map_eq_some_iff.1 hnets.symm
  exact ⟨n, fetch_eq_ok_iff.2 hn', hu⟩

theorem portWire_of_unrouted (h : c'.unrouted = c.unrouted) (port : PortRef) :
    c'.portWire port = c.portWire port := by
  have hcells : c'.netlist.cells = c.netlist.cells := congrArg (·.netlist.cells) h
  simp only [portWire, Netlist.cell, hcells, device_of_unrouted h]

theorem sourceWire_of_unrouted (h : c'.unrouted = c.unrouted)
    (hw : c'.sourceWire net = .ok (some w)) : c.sourceWire net = .ok (some w) := by
  obtain ⟨n', hn', hw⟩ := bind_eq_ok_iff.1 hw
  obtain ⟨n, hn, hu⟩ := net_of_unrouted h hn'
  have hdriver : n.driver = n'.driver := congrArg (·.driver) hu
  simp only [sourceWire, hn, bind, Except.bind]
  rw [hdriver]
  cases hd : n'.driver with
  | none => simp [hd, pure, Except.pure] at hw
  | some driver =>
    simp only [hd] at hw
    rwa [portWire_of_unrouted h] at hw

def IsSink (c : Context) (net : NetId) (w : WireId) : Prop :=
  ∃ n user, c.netlist.net net = .ok n ∧ user ∈ n.users ∧ c.portWire user = .ok (some w)

theorem isSink_of_unrouted (h : c'.unrouted = c.unrouted) (hw : c'.IsSink net w) :
    c.IsSink net w := by
  obtain ⟨n', user, hn', huser, hw⟩ := hw
  obtain ⟨n, hn, hu⟩ := net_of_unrouted h hn'
  have husers : n.users = n'.users := congrArg (·.users) hu
  exact ⟨n, user, hn, husers ▸ huser, portWire_of_unrouted h user ▸ hw⟩

/-! ### Along a path -/

/-- A route goes on when a wire off the route has gone to the net. -/
theorem Route.change {t : Tenure} (hchange : c.Change c' x (some t)) (ht : t.hold.net = net)
    (hps : ∀ q ∈ ps, c.device.pipDstWire q ≠ .ok x) (h : c.Route pass net sink w ps) :
    c'.Route pass net sink w ps := by
  induction ps generalizing w with
  | nil => exact h
  | cons p ps ih =>
    obtain ⟨hleg, y, hy, hnet, hfree, hlater, hrest⟩ := h
    have hyx : y ≠ x := by
      rintro rfl
      exact hps p (by simp) hy
    refine ⟨⟨?_, ?_, ?_, ?_, ?_⟩, y, ?_, ?_, ?_, ?_, ?_⟩
    · rw [hchange.device_eq]
      exact hleg.listed
    · rw [hchange.device_eq]
      exact hleg.src
    · obtain ⟨hbl, hown⟩ := isPipFreeFor_eq_true_iff.1 hleg.free
      refine isPipFreeFor_eq_true_iff.2 ⟨hchange.device_eq ▸ hbl, fun n hn => ?_⟩
      obtain ⟨held, hb, rfl⟩ := Option.map_eq_some_iff.1 hn
      rcases hchange.pip_cases hb with ⟨t', ht', hn', _⟩ | ⟨_, hb⟩
      · obtain rfl := Option.some.inj ht'
        rw [hn', ht]
      · exact hown held.net (by rw [pipNet, hb]; rfl)
    · rw [hchange.device_eq]
      exact hleg.intent
    · by_cases hw : w = x
      · rw [hw, hchange.wireBinding_self]
        simp [Binding.heldByOther, ht]
      · rw [hchange.wireBinding_of_ne hw]
        exact hleg.unheld
    · rw [hchange.device_eq]
      exact hy
    · rw [wireNet, hchange.wireBinding_of_ne hyx]
      exact hnet
    · rw [hchange.wireBinding_of_ne hyx]
      exact hfree
    · rw [hchange.device_eq]
      exact hlater
    · exact ih (fun q hq => hps q (by simp [hq])) hrest

theorem Change.admits {t : Tenure} (hchange : c.Change c' x (some t)) (ht : t.hold.net = net)
    {s : Strength} (h : (c.wireBinding w).admits net s = true) :
    (c'.wireBinding w).admits net s = true := by
  by_cases hw : w = x
  · exact admits_of_own (by rw [hw, hchange.wireNet_new, ht]) s
  · rwa [hchange.wireBinding_of_ne hw]

theorem Route.next (hc : c.Coherent) (hadm : (c.wireBinding sink).admits net pass.strength = true)
    (h : c.Route pass net sink w (p :: ps)) (hbind : c.bindPip p net pass.strength = .ok (.ok c')) :
    ∃ x t, c.Change c' x (some t) ∧ (x = sink ∨ c.wireBinding x = none) ∧
      c'.wireNet x = some net ∧ c'.Route pass net sink x ps ∧
      (c'.wireBinding sink).admits net pass.strength = true := by
  obtain ⟨-, x, hx, -, hfree, hlater, hrest⟩ := h
  obtain ⟨y, hy, _, _, _, _, hchange⟩ := bindPip_change hc hbind
  obtain rfl : x = y := Except.ok.inj (hx.symm.trans hy)
  refine ⟨x, _, hchange, hfree, ?_, hrest.change hchange Binding.rebound_net hlater,
    hchange.admits Binding.rebound_net hadm⟩
  rw [hchange.wireNet_new, Binding.rebound_net]

/-- A pip that carries a net on: from a wire of the net to one that the net does not hold yet. That
wire is free, and the pass may route from it, unless a port uses the net there. -/
structure Graft (c : Context) (pass : Pass) (net : NetId) (p : PipId) : Prop where
  leg : ∃ w, c.wireNet w = some net ∧ c.Leg pass net w p
  dst : ∃ x, c.device.pipDstWire p = .ok x ∧ c.wireNet x ≠ some net ∧
    (c.wireBinding x = none ∧ (∃ i, c.device.wireIntent x = .ok i ∧ pass.admitsIntent i = true) ∨
      c.IsSink net x)
  unbound : c.pipBinding p = none

theorem Graft.change (h : c.Graft pass net p) (hc : c.Coherent)
    (hbind : c.bindPip p net pass.strength = .ok (.ok c')) :
    ∃ x, c.device.pipDstWire p = .ok x ∧ c.wireNet x ≠ some net ∧
      (c.wireBinding x = none ∧ (∃ i, c.device.wireIntent x = .ok i ∧ pass.admitsIntent i = true) ∨
        c.IsSink net x) ∧
      (c.wireBinding x).admits net pass.strength = true ∧
      c.Change c' x (some ⟨(c.wireBinding x).rebound net pass.strength, some (p, pass.strength)⟩) := by
  obtain ⟨x, hx, hforeign, hfree⟩ := h.dst
  obtain ⟨y, hy, _, _, _, hadm, hchange⟩ := bindPip_change hc hbind
  obtain rfl : x = y := Except.ok.inj (hx.symm.trans hy)
  rw [h.unbound] at hchange
  exact ⟨x, hx, hforeign, hfree, hadm, hchange⟩

/-! ### The nets of a pass -/

def isClockNet (c : Context) (net : NetId) : Bool :=
  ((c.netlist.nets[net]?).bind (·.driver)).any fun driver =>
    (c.netlist.cells[driver.cell]?).any (clockBufferTypes.contains ·.cellType) &&
      driver.port = Known.ident "O"

/-- The nets that a pass is there for. -/
def passNets (c : Context) : Pass → List NetId
  | .constant => [Netlist.vccName, Netlist.gndName].filterMap c.netlist.netByName
  | .clock => (List.range c.netlist.nets.size).filter c.isClockNet

theorem isClockNet_of_unrouted (h : c'.unrouted = c.unrouted) (net : NetId) :
    c'.isClockNet net = c.isClockNet net := by
  have hcells : c'.netlist.cells = c.netlist.cells := congrArg (·.netlist.cells) h
  have hdriver : (c'.netlist.nets[net]?).bind (·.driver) = (c.netlist.nets[net]?).bind (·.driver) := by
    have hbind := congrArg (fun n : Option Net => n.bind (·.driver)) (getElem?_nets_of_unrouted h net)
    simpa only [Option.bind_map, Function.comp_def, Net.unrouted] using hbind
  rw [isClockNet, isClockNet, hcells, hdriver]

theorem clockDriver?_isSome {n : Net} {found : Option Cell} (hn : c.netlist.net net = .ok n)
    (h : c.clockDriver? n = .ok found) : found.isSome = c.isClockNet net := by
  rw [isClockNet, fetch_eq_ok_iff.1 hn, Option.bind_some]
  cases hd : n.driver with
  | none =>
    simp only [clockDriver?, hd] at h
    obtain rfl := Except.ok.inj h
    rfl
  | some driver =>
    simp only [clockDriver?, hd] at h
    obtain ⟨cell, hcell, h⟩ := bind_eq_ok_iff.1 h
    rw [Option.any_some, fetch_eq_ok_iff.1 hcell, Option.any_some]
    by_cases hclock : clockBufferTypes.contains cell.cellType ∧ driver.port = Known.ident "O"
    · rw [if_pos hclock] at h
      obtain rfl := Except.ok.inj h
      rw [hclock.1, hclock.2]
      rfl
    · rw [if_neg hclock] at h
      obtain rfl := Except.ok.inj h
      simpa using hclock

end Context

/-! ### Arcs counted as routed -/

namespace Pass

/-- The users among those of a net whose arcs a pass counts as routed. -/
def userArcs (pass : Pass) (net : NetId) (name : String) :
    PassState → List PortRef → List (NetId × PortRef) :=
  collect (pass.routeArc net name) fun s s' user =>
    if s.report.arcsRouted < s'.report.arcsRouted then [(net, user)] else []

/-- The arcs of a net that a pass counts as routed. -/
def netArcs (pass : Pass) (s : PassState) (net : NetId) : List (NetId × PortRef) :=
  match s.ctx.netlist.net net with
  | .error _ => []
  | .ok n =>
    match pass.claimSource net n.name s with
    | .error _ => []
    | .ok s => pass.userArcs net n.name s n.users

end Pass

namespace Context

/-- The arcs that `routeConstants` counts as routed. -/
def constantArcs (c : Context) (log : Log) : List (NetId × PortRef) :=
  collect routeConstant (fun s _ name => match s.ctx.netlist.netByName name with
    | none => []
    | some net => Pass.constant.netArcs (s.note 1 s!"routing {name} connections") net)
    { ctx := c, log } [Netlist.vccName, Netlist.gndName]

def clockNetArcs (s : PassState) (net : NetId) : List (NetId × PortRef) :=
  match s.ctx.netlist.net net with
  | .error _ => []
  | .ok n => match s.ctx.clockDriver? n with
    | .ok (some cell) => if cell.bel.isNone then []
      else Pass.clock.netArcs (s.note 3 s!"routing clock '{n.name}'") net
    | _ => []

/-- The arcs that `routeClocks` counts as routed. -/
def clockArcs (c : Context) (log : Log) : List (NetId × PortRef) :=
  let s : PassState := { ctx := c, log }
  collect routeClock (fun s _ net => clockNetArcs s net) (s.note 2 "routing global clocks")
    c.netlist.netsByName

end Context

/-! ### Either pass -/

namespace Context

def routePass (c : Context) (log : Log) : Pass → Query PassOutcome
  | .constant => c.routeConstants log
  | .clock => c.routeClocks log

/-- The arcs that a pass counts as routed. -/
def passArcs (c : Context) (log : Log) : Pass → List (NetId × PortRef)
  | .constant => c.constantArcs log
  | .clock => c.clockArcs log

/-- The nets that a pass looks at, in order. -/
def passOrder (c : Context) : Pass → List NetId
  | .constant => c.passNets .constant
  | .clock => c.netlist.netsByName

end Context

/-! ### Invariants of a pass -/

/-- A property of the nets not yet routed, the arcs counted as routed, the context, and the numbers
of nets and pips bound, that every step of a pass keeps. -/
structure Pass.Keeps (pass : Pass) (c₀ : Context)
    (Q : List NetId → List (NetId × PortRef) → Context → Nat → Nat → Prop) : Prop where
  skip : ∀ {net rest arcs c n k}, Q (net :: rest) arcs c n k → Q rest arcs c n k
  source : ∀ {net rest arcs c c' n k w}, net ∈ c₀.passNets pass → c.Coherent →
    c.unrouted = c₀.unrouted → Q (net :: rest) arcs c n k → c.sourceWire net = .ok (some w) →
    c.bindWire w net pass.strength = .ok (.ok c') → Q rest arcs c' (n + 1) k
  graft : ∀ {net rest arcs c c' n k p}, net ∈ c₀.passNets pass → c.Coherent →
    c.unrouted = c₀.unrouted → Q rest arcs c n k →
    (c₀.device.AdjacencyConsistent → c.Graft pass net p) →
    c.bindPip p net pass.strength = .ok (.ok c') → Q rest arcs c' n (k + 1)
  arc : ∀ {net rest arcs c n k user sink}, net ∈ c₀.passNets pass → c.Coherent →
    c.unrouted = c₀.unrouted → Q rest arcs c n k → c.portWire user = .ok (some sink) →
    (c₀.device.AdjacencyConsistent → c.wireNet sink = some net) →
    Q rest (arcs ++ [(net, user)]) c n k

theorem Pass.keeps_true (pass : Pass) (c₀ : Context) :
    pass.Keeps c₀ fun _ _ _ _ _ => True := by
  constructor <;> intros <;> trivial

/-- A property of the context and the numbers of nets and pips bound, at a moment of a pass. -/
structure PassState.Holds (c₀ : Context) (Q : Context → Nat → Nat → Prop) (s : PassState) :
    Prop where
  coherent : s.ctx.Coherent
  unrouted : s.ctx.unrouted = c₀.unrouted
  holds : Q s.ctx s.report.nets s.report.pipsBound

/-- A pass that fails has kept a property, and no pip of a path that it found was refused, if the
pips listed uphill of a wire drive it. -/
structure PassState.Stops (c₀ : Context) (Q : Context → Nat → Nat → Prop) (e : RouteError)
    (s : PassState) : Prop where
  kept : s.Holds c₀ Q
  granted : c₀.device.AdjacencyConsistent → ¬ e.IsRefusal

namespace Pass.Keeps

variable {pass : Pass} {c₀ : Context}
  {Q : List NetId → List (NetId × PortRef) → Context → Nat → Nat → Prop} {s : PassState}
  {net : NetId} {rest : List NetId} {arcs : List (NetId × PortRef)}

theorem path (hk : pass.Keeps c₀ Q) (name : String) (hnet : net ∈ c₀.passNets pass) {sink : WireId}
    {pips : List PipId} (hsink : c₀.IsSink net sink) (hs : s.Holds c₀ (Q rest arcs))
    (hadm : (s.ctx.wireBinding sink).admits net pass.strength = true)
    (hroute : c₀.device.AdjacencyConsistent →
      ∃ w, s.ctx.wireNet w = some net ∧ s.ctx.Route pass net sink w pips) :
    Ends (fun s' => s'.Holds c₀ (Q rest arcs) ∧
        s'.report = { s.report with pipsBound := s'.report.pipsBound } ∧
        (c₀.device.AdjacencyConsistent → s'.ctx.wireNet sink = some net))
      (PassState.Stops c₀ (Q rest arcs)) (pips.foldlM (pass.bindStep net name) s) := by
  -- the pips that are still to be bound are a route from a wire that the net holds by now
  have hfold := Ends.foldlM (F := PassState.Stops c₀ (Q rest arcs)) (pass.bindStep net name)
    (fun pips s' => s'.Holds c₀ (Q rest arcs) ∧
      s'.report = { s.report with pipsBound := s'.report.pipsBound } ∧
      (s'.ctx.wireBinding sink).admits net pass.strength = true ∧
      (c₀.device.AdjacencyConsistent →
        ∃ w, s'.ctx.wireNet w = some net ∧ s'.ctx.Route pass net sink w pips))
    ?_ ⟨hs, rfl, hadm, hroute⟩
  · refine hfold.mono ?_ fun _ _ h => h
    rintro s' ⟨hs', hreport, _, hroute'⟩
    refine ⟨hs', hreport, fun hd => ?_⟩
    obtain ⟨w, hw, rfl⟩ := hroute' hd
    exact hw
  · rintro p pips s' ⟨hs', hreport, hadm', hroute'⟩
    refine bindStep_ends (fun e hrefused => ⟨hs', fun hd _ => ?_⟩) fun c log hbind => ?_
    · obtain ⟨w, hw, hroute'⟩ := hroute' hd
      obtain ⟨_, c, hbind⟩ := hroute'.granted hs'.coherent hw hadm'
      rw [hrefused] at hbind
      cases Except.ok.inj hbind
    obtain ⟨_, _, _, _, _, _, hchange⟩ := Context.bindPip_change hs'.coherent hbind
    refine ⟨⟨hs'.coherent.bindPip hbind, hchange.unrouted.trans hs'.unrouted, ?_⟩, ?_,
      hchange.admits Binding.rebound_net hadm', fun hd => ?_⟩
    · refine hk.graft hnet hs'.coherent hs'.unrouted hs'.holds (fun hd => ?_) hbind
      obtain ⟨w, hw, hroute'⟩ := hroute' hd
      obtain ⟨hunbound, _⟩ := hroute'.granted hs'.coherent hw hadm'
      obtain ⟨hleg, x, hx, hforeign, hfree, -, hrest⟩ := hroute'
      refine ⟨⟨w, hw, hleg⟩, ⟨x, hx, hforeign, ?_⟩, hunbound⟩
      by_cases hxs : x = sink
      · exact Or.inr (Context.isSink_of_unrouted hs'.unrouted.symm (hxs ▸ hsink))
      · exact Or.inl ⟨hfree.resolve_left hxs, hrest.intent.resolve_left hxs⟩
    · rw [hreport]
    · obtain ⟨w, hw, hroute'⟩ := hroute' hd
      obtain ⟨x, _, _, _, hx, hrest, _⟩ := hroute'.next hs'.coherent hadm' hbind
      exact ⟨x, hx, hrest⟩

theorem userArc (hk : pass.Keeps c₀ Q) (name : String) (hnet : net ∈ c₀.passNets pass) {user : PortRef}
    (hsink : ∀ sink, c₀.portWire user = .ok (some sink) → c₀.IsSink net sink)
    (hs : s.Holds c₀ (Q rest arcs)) :
    Ends (fun s' => s'.Holds c₀ (Q rest (arcs ++
        if s.report.arcsRouted < s'.report.arcsRouted then [(net, user)] else [])))
      (PassState.Stops c₀ (Q rest arcs)) (pass.routeArc net name s user) := by
  refine routeArc_ends (fun _ e log he => ⟨⟨hs.coherent, hs.unrouted, hs.holds⟩, fun _ => he⟩)
    ?_ ?_
  · intro _ log
    rw [if_neg (Nat.lt_irrefl _), List.append_nil]
    exact ⟨hs.coherent, hs.unrouted, hs.holds⟩
  · intro sink pips log huser hadm hsearch
    have hdevice := Context.device_of_unrouted hs.unrouted
    have huser₀ : c₀.portWire user = .ok (some sink) := by
      rw [← Context.portWire_of_unrouted hs.unrouted]
      exact huser
    have hs₁ : (⟨s.ctx, log, s.report⟩ : PassState).Holds c₀ (Q rest arcs) :=
      ⟨hs.coherent, hs.unrouted, hs.holds⟩
    have hpath := hk.path name hnet (hsink sink huser₀) hs₁ hadm fun hd =>
      Context.searchUphill_route (hdevice ▸ hd) (Context.isHandle_of_portWire huser) hsearch
    refine hpath.mono ?_ fun _ _ h => h
    rintro s' ⟨hs', hreport, hsunk⟩
    have hrouted : s'.report.arcsRouted = s.report.arcsRouted := by rw [hreport]
    simp only [hrouted, if_pos (Nat.lt_succ_self _)]
    refine ⟨hs'.coherent, hs'.unrouted, hk.arc hnet hs'.coherent hs'.unrouted hs'.holds ?_ hsunk⟩
    rw [Context.portWire_of_unrouted hs'.unrouted]
    exact huser₀

theorem routeNet (hk : pass.Keeps c₀ Q) (hnet : net ∈ c₀.passNets pass)
    (hs : s.Holds c₀ (Q (net :: rest) arcs)) :
    Ends (fun s' => s'.Holds c₀ (Q rest (arcs ++ pass.netArcs s net)))
      (fun e s' => ∃ rest arcs, s'.Stops c₀ (Q rest arcs) e) (pass.routeNet s net) := by
  refine Ends.ask fun n hn => ?_
  obtain ⟨n₀, hn₀, hu⟩ := Context.net_of_unrouted hs.unrouted hn
  have husers : n₀.users = n.users := congrArg (·.users) hu
  have hsource : Ends (·.Holds c₀ (Q rest arcs))
      (fun e s' => ∃ rest arcs, s'.Stops c₀ (Q rest arcs) e)
      (pass.claimSource net n.name s) := by
    refine claimSource_ends (fun e he => ⟨_, _, hs, fun _ => he⟩)
      fun w c hw hbind => ⟨hs.coherent.bindWire hbind, ?_, ?_⟩
    · obtain ⟨_, _, hchange⟩ := Context.bindWire_change hs.coherent hbind
      exact hchange.unrouted.trans hs.unrouted
    · exact hk.source hnet hs.coherent hs.unrouted hs.holds hw hbind
  cases hclaim : pass.claimSource net n.name s with
  | error halt =>
    rw [hclaim] at hsource
    cases halt with
    | fault f => trivial
    | failed e s' => exact hsource
  | ok s₁ =>
    rw [hclaim] at hsource
    have hfold := Ends.foldlM_collect
      (F := fun e s' => ∃ rest arcs, s'.Stops c₀ (Q rest arcs) e)
      (pass.routeArc net n.name)
      (fun s s' user =>
        if s.report.arcsRouted < s'.report.arcsRouted then [(net, user)] else [])
      (fun arcs users s => (∀ user ∈ users, user ∈ n.users) ∧ s.Holds c₀ (Q rest arcs))
      arcs ?_ ⟨fun _ h => h, hsource⟩
    · have harcs : pass.netArcs s net = pass.userArcs net n.name s₁ n.users := by
        simp only [netArcs, hn, hclaim]
      rw [harcs]
      exact hfold.mono (fun s' h => h.2) fun _ _ h => h
    · rintro done user users s ⟨hmem, hs⟩
      refine (hk.userArc n.name hnet ?_ hs).mono ?_ ?_
      · exact fun sink hsink => ⟨n₀, user, hn₀, husers ▸ hmem user (by simp), hsink⟩
      · exact fun s' hs' => ⟨fun u hu => hmem u (by simp [hu]), hs'⟩
      · exact fun e s' hs' => ⟨_, _, hs'⟩

end Pass.Keeps

/-! ### From net to net -/

/-- A property of the nets not yet looked at, the arcs counted as routed and the state of a pass that
every net of the pass keeps, whether it is routed or left. -/
structure Pass.KeepsNets (pass : Pass) (c : Context)
    (I : List NetId → List (NetId × PortRef) → PassState → Prop)
    (F : RouteError → PassState → Prop) : Prop where
  unrouted : ∀ {rest arcs s}, I rest arcs s → s.ctx.unrouted = c.unrouted
  log : ∀ {rest arcs s} log, I rest arcs s → I rest arcs ⟨s.ctx, log, s.report⟩
  skip : ∀ {net rest arcs s}, net ∉ c.passNets pass → I (net :: rest) arcs s → I rest arcs s
  leave : ∀ {net rest arcs s n}, net ∈ c.passNets pass → pass = .clock →
    s.ctx.netlist.net net = .ok n → I (net :: rest) arcs s → I rest arcs (s.leave n.users.length)
  route : ∀ {net rest arcs s}, net ∈ c.passNets pass → I (net :: rest) arcs s →
    Ends (I rest (arcs ++ pass.netArcs s net)) F (pass.routeNet s net)

namespace Pass.KeepsNets

variable {c : Context} {I : List NetId → List (NetId × PortRef) → PassState → Prop}
  {F : RouteError → PassState → Prop} {log : Log}

private theorem constants (hk : Pass.constant.KeepsNets c I F)
    (hI : I (c.passOrder .constant) [] { ctx := c, log }) :
    Ends (I [] (c.constantArcs log)) F
      ([Netlist.vccName, Netlist.gndName].foldlM Context.routeConstant { ctx := c, log }) := by
  have hfold := Ends.foldlM_collect (F := F) Context.routeConstant
    (fun s _ name => match s.ctx.netlist.netByName name with
      | none => []
      | some net => Pass.constant.netArcs (s.note 1 s!"routing {name} connections") net)
    (fun arcs names s => (∀ name ∈ names, name ∈ [Netlist.vccName, Netlist.gndName]) ∧
      I (names.filterMap c.netlist.netByName) arcs s)
    [] ?_ ⟨fun _ h => h, hI⟩
  · exact hfold.mono (fun s h => h.2) fun _ _ h => h
  rintro done name names s ⟨hmem, hs⟩
  rw [Context.routeConstant, Context.netByName_of_unrouted (hk.unrouted hs)]
  cases hname : c.netlist.netByName name with
  | none =>
    rw [List.filterMap_cons_none hname] at hs
    refine ⟨fun n hn => hmem n (by simp [hn]), ?_⟩
    simpa using hs
  | some net =>
    rw [List.filterMap_cons_some hname] at hs
    have hnet : net ∈ c.passNets .constant :=
      List.mem_filterMap.2 ⟨name, hmem name (by simp), hname⟩
    refine (hk.route hnet (s := s.note 1 s!"routing {name} connections") (hk.log _ hs)).mono ?_
      fun _ _ h => h
    exact fun s' hs' => ⟨fun n hn => hmem n (by simp [hn]), hs'⟩

private theorem clocks (hk : Pass.clock.KeepsNets c I F)
    (hI : I (c.passOrder .clock) [] { ctx := c, log }) :
    Ends (I [] (c.clockArcs log)) F (c.netlist.netsByName.foldlM Context.routeClock
      (({ ctx := c, log } : PassState).note 2 "routing global clocks")) := by
  refine Ends.foldlM_collect Context.routeClock _ (fun arcs nets s => I nets arcs s) [] ?_
    (hk.log _ hI)
  intro done net nets s hs
  cases hn : s.ctx.netlist.net net with
  | error f =>
    rw [Context.routeClock, hn]
    trivial
  | ok n =>
    obtain ⟨n₀, hn₀, _⟩ := Context.net_of_unrouted (hk.unrouted hs) hn
    have hrange : net ∈ List.range c.netlist.nets.size := List.mem_range.2 (lt_size_of_fetch hn₀)
    cases hclock : s.ctx.clockDriver? n with
    | error f =>
      rw [Context.routeClock, hn]
      simp only [PassState.ask, Except.mapError, bind, Except.bind, hclock]
      trivial
    | ok found =>
      have hfound : found.isSome = c.isClockNet net := by
        rw [Context.clockDriver?_isSome hn hclock, Context.isClockNet_of_unrouted (hk.unrouted hs)]
      rw [Context.routeClock, Context.clockNetArcs, hn]
      simp only [PassState.ask, Except.mapError, bind, Except.bind, hclock]
      cases found with
      | none =>
        simp only [List.append_nil]
        refine hk.skip (fun hnet => ?_) hs
        rw [(List.mem_filter.1 hnet).2] at hfound
        cases hfound
      | some cell =>
        have hnet : net ∈ c.passNets .clock := List.mem_filter.2 ⟨hrange, hfound.symm⟩
        by_cases hbel : cell.bel.isNone = true
        · simp only [if_pos hbel, List.append_nil]
          exact hk.log _ (hk.leave hnet rfl hn hs)
        · simp only [if_neg hbel]
          exact hk.route hnet (s := s.note 3 s!"routing clock '{n.name}'") (hk.log _ hs)

theorem routePass {pass : Pass} {o : PassOutcome} (hk : pass.KeepsNets c I F)
    (hI : I (c.passOrder pass) [] { ctx := c, log }) (ho : c.routePass log pass = .ok o) :
    (∃ s, I [] (c.passArcs log pass) s ∧ o = ⟨.ok s.report, s.ctx, s.log⟩) ∨
      ∃ s e, F e s ∧ o = ⟨.error e, s.ctx, s.log⟩ := by
  cases pass with
  | constant => exact (constants hk hI).outcome ho
  | clock => exact (clocks hk hI).outcome ho

end Pass.KeepsNets

theorem Pass.Keeps.keepsNets {pass : Pass} {c : Context}
    {Q : List NetId → List (NetId × PortRef) → Context → Nat → Nat → Prop} (hk : pass.Keeps c Q) :
    pass.KeepsNets c (fun rest arcs s => s.Holds c (Q rest arcs))
      (fun e s => ∃ rest arcs, s.Stops c (Q rest arcs) e) where
  unrouted hs := hs.unrouted
  log _ hs := ⟨hs.coherent, hs.unrouted, hs.holds⟩
  skip _ hs := ⟨hs.coherent, hs.unrouted, hk.skip hs.holds⟩
  leave _ _ _ hs := ⟨hs.coherent, hs.unrouted, hk.skip hs.holds⟩
  route hnet hs := hk.routeNet hnet hs

namespace Context

variable {c : Context} {Q : List NetId → List (NetId × PortRef) → Context → Nat → Nat → Prop}
  {log : Log} {o : PassOutcome}

/-- What is left behind by a pass whose steps keep a property. -/
def Left (c : Context) (Q : List NetId → List (NetId × PortRef) → Context → Nat → Nat → Prop)
    (arcs : List (NetId × PortRef)) (o : PassOutcome) : Prop :=
  o.ctx.Coherent ∧ o.ctx.unrouted = c.unrouted ∧
    (∀ report, o.result = .ok report → Q [] arcs o.ctx report.nets report.pipsBound) ∧
    ∃ rest arcs nets pips, Q rest arcs o.ctx nets pips

theorem routePass_keeps {pass : Pass} (hk : pass.Keeps c Q) (hc : c.Coherent)
    (hQ : Q (c.passOrder pass) [] c 0 0) (ho : c.routePass log pass = .ok o) :
    c.Left Q (c.passArcs log pass) o := by
  rcases hk.keepsNets.routePass ⟨hc, rfl, hQ⟩ ho with ⟨s, hs, rfl⟩ | ⟨s, e, ⟨rest, arcs, hs⟩, rfl⟩
  · refine ⟨hs.coherent, hs.unrouted, ?_, _, _, _, _, hs.holds⟩
    intro report hreport
    obtain rfl := Except.ok.inj hreport
    exact hs.holds
  · exact ⟨hs.kept.coherent, hs.kept.unrouted, fun report h => by simp at h, _, _, _, _,
      hs.kept.holds⟩

/-- No pip of a path that was found is refused, where the pips listed uphill of a wire drive it. -/
theorem routePass_granted {pass : Pass} (hc : c.Coherent) (hd : c.device.AdjacencyConsistent)
    (ho : c.routePass log pass = .ok o) {e : RouteError} (he : o.result = .error e) :
    ¬ e.IsRefusal := by
  rcases (Pass.keeps_true pass c).keepsNets.routePass ⟨hc, rfl, trivial⟩ ho with
    ⟨s, _, rfl⟩ | ⟨s, e', ⟨_, _, hs⟩, rfl⟩
  · cases he
  · obtain rfl := Except.error.inj he
    exact hs.granted hd

end Context
end Interconnect
