import Interconnect.Proofs.Routing.Count
/-!
# Routed trees

A pass that starts with nothing bound takes wires that are free and no others. Each of them is a
net's source or hangs from a wire of the net by the pip that was bound with it, so the wires of every
net form a tree, and the tables hold exactly what the report counts.
-/
namespace Interconnect.Context

variable {c c' : Context} {pass : Pass} {net m : NetId} {w x y : WireId} {p q : PipId} {t : Tenure}
  {s : Strength} {stop stop' : WireId → Prop}

/-! ### Climbing -/

/-- From a wire the pips that drive the wires of a net lead up to a wire where the climb may stop,
through nothing but wires and pips of the net. -/
inductive Climbs (c : Context) (net : NetId) (stop : WireId → Prop) : WireId → Prop
  | stop {w : WireId} : stop w → Climbs c net stop w
  | pip {w x : WireId} {p : PipId} : c.wireNet w = some net → c.drivingPip net w = some p →
    c.pipNet p = some net → c.device.pipSrcWire p = .ok x → Climbs c net stop x → Climbs c net stop w

theorem Climbs.imp (h : c.Climbs net stop w) (hstop : ∀ x, stop x → stop' x) :
    c.Climbs net stop' w := by
  induction h with
  | stop h => exact .stop (hstop _ h)
  | pip hnet hdrive hpip hsrc _ ih => exact .pip hnet hdrive hpip hsrc ih

theorem Climbs.exists_stop (h : c.Climbs net stop w) : ∃ x, stop x := by
  induction h with
  | stop h => exact ⟨_, h⟩
  | pip _ _ _ _ _ ih => exact ih

/-- A climb is still one when a wire has changed hands, unless the climb passes through that wire and
may not stop there. -/
theorem Climbs.change {t : Option Tenure} (hc' : c'.Coherent) (h : c.Change c' x t)
    (hstop : ∀ y, stop y → stop' y) (hx : c.wireNet x = some net → stop' x)
    (hw : c.Climbs net stop w) : c'.Climbs net stop' w := by
  induction hw with
  | stop hw => exact .stop (hstop _ hw)
  | @pip w y p hnet hdrive _ hsrc _ ih =>
    by_cases hwx : w = x
    · subst x
      exact .stop (hx hnet)
    · have hdrive' : c'.drivingPip net w = some p := by rw [h.drivingPip_of_ne hwx, hdrive]
      refine .pip ?_ hdrive' ((hc'.pip_iff p net).2 ⟨w, hdrive'⟩) ?_ ih
      · rw [wireNet, h.wireBinding_of_ne hwx]
        exact hnet
      · rw [h.device_eq]
        exact hsrc

/-- Whether a wire is the source of a net, and the net holds it. -/
def AtSource (c : Context) (net : NetId) (w : WireId) : Prop :=
  c.sourceWire net = .ok (some w) ∧ c.wireNet w = some net

theorem atSource_of_change {t : Option Tenure} (h : c.Change c' x t) (hx : w ≠ x) :
    c'.AtSource net w ↔ c.AtSource net w := by
  rw [AtSource, AtSource, wireNet, wireNet, h.wireBinding_of_ne hx]
  constructor
  · rintro ⟨hsource, hnet⟩
    exact ⟨sourceWire_of_unrouted h.unrouted hsource, hnet⟩
  · rintro ⟨hsource, hnet⟩
    exact ⟨sourceWire_of_unrouted h.unrouted.symm hsource, hnet⟩

theorem wireBinding_of_empty (hw : c.wireHolds = ∅) (w : WireId) : c.wireBinding w = none := by
  rw [wireBinding, hw]
  rfl

/-! ### Taking a free wire -/

theorem Change.drivingPip_new (h : c.Change c' w (some t)) :
    c'.drivingPip t.hold.net w = t.driver.map (·.1) := by
  rw [drivingPip_eq, h.entry, if_pos rfl, Option.bind_some, Tenure.entry, if_pos rfl]
  rfl

theorem Change.size_wireHolds (h : c.Change c' w (some t)) (hw : c.wireBinding w = none) :
    c'.wireHolds.size = c.wireHolds.size + 1 := by
  have hinsert : c'.wireHolds = c.wireHolds.insert w t.hold := by
    apply Std.ExtTreeMap.ext_getElem?
    intro y
    rw [getElem?_insert_ite]
    exact h.wire y
  have hfresh : c.wireHolds.contains w = false := by
    rw [Std.ExtTreeMap.contains_eq_isSome_getElem?]
    exact congrArg Option.isSome hw
  rw [hinsert, Std.ExtTreeMap.size_insert, hfresh]
  rfl

theorem Change.pipHolds_eq (h : c.Change c' w (some t)) (hw : c.wireBinding w = none)
    (ht : t.driver = none) : c'.pipHolds = c.pipHolds := by
  have hdriver : c.driver w = none := by rw [driver, hw]; rfl
  apply Std.ExtTreeMap.ext_getElem?
  intro p
  exact h.pip_other (fun t' s ht' hd => by
    obtain rfl := Option.some.inj ht'
    simp [ht] at hd) (by simp [hdriver])

theorem Change.size_pipHolds (h : c.Change c' w (some t)) (hw : c.wireBinding w = none)
    (ht : t.driver = some (p, s)) (hp : c.pipBinding p = none) :
    c'.pipHolds.size = c.pipHolds.size + 1 := by
  have hdriver : c.driver w = none := by rw [driver, hw]; rfl
  have hinsert : c'.pipHolds = c.pipHolds.insert p ⟨t.hold.net, s⟩ := by
    apply Std.ExtTreeMap.ext_getElem?
    intro q
    rw [getElem?_insert_ite]
    by_cases hq : q = p
    · rw [if_pos hq, hq]
      exact h.pip_driver rfl ht
    · rw [if_neg hq]
      refine h.pip_other (fun t' s' ht' hd => ?_) (by simp [hdriver])
      obtain rfl := Option.some.inj ht'
      obtain ⟨rfl, _⟩ : p = q ∧ _ := by simpa [ht] using hd
      exact hq rfl
  have hfresh : c.pipHolds.contains p = false := by
    rw [Std.ExtTreeMap.contains_eq_isSome_getElem?]
    exact congrArg Option.isSome hp
  rw [hinsert, Std.ExtTreeMap.size_insert, hfresh]
  rfl

theorem Coherent.pipBinding_of_free (hc : c.Coherent) (hp : c.device.pipDstWire p = .ok w)
    (hw : c.wireBinding w = none) : c.pipBinding p = none := by
  cases hb : c.pipBinding p with
  | none => rfl
  | some held =>
    obtain ⟨x, holder, hx, hholder, _⟩ := hc.holder_of_pipBinding hb
    obtain rfl : x = w := Except.ok.inj (hx.symm.trans hp)
    simp [hw] at hholder

/-! ### The trees of a pass -/

/-- What holds all along a pass that starts with nothing bound: everything is held at the strength of
the pass, by nets that it is through with, whose wires hang from their sources. -/
structure Forest (pass : Pass) (rest : List NetId) (arcs : List (NetId × PortRef)) (c : Context)
    (nets pips : Nat) : Prop where
  strength : ∀ w held, c.wireBinding w = some held → held.strength = pass.strength
  nodup : rest.Nodup
  fresh : ∀ w net, c.wireNet w = some net → net ∉ rest
  climbs : ∀ w net, c.wireNet w = some net → c.Climbs net (c.AtSource net) w
  root : ∀ w net, c.AtSource net w → c.drivingPip net w = none
  wires : c.wireHolds.size = pips + nets
  pips : c.pipHolds.size = pips
  arcs : ∀ net user, (net, user) ∈ arcs →
    ∃ w, c.portWire user = .ok (some w) ∧ c.wireNet w = some net

namespace Forest

variable {rest : List NetId} {arcs : List (NetId × PortRef)} {nets pips : Nat}

theorem free (h : Forest pass rest arcs c nets pips) (hw : c.wireNet w ≠ some net)
    (hadm : (c.wireBinding w).admits net pass.strength = true) : c.wireBinding w = none := by
  cases hb : c.wireBinding w with
  | none => rfl
  | some held =>
    rw [hb] at hadm
    rcases Binding.admits_eq_true_iff.1 hadm held rfl with hnet | hlt
    · exact absurd (by rw [wireNet, hb, ← hnet]; rfl) hw
    · rw [h.strength w held hb] at hlt
      exact absurd hlt (Nat.lt_irrefl _)

theorem source_free (h : Forest pass (net :: rest) arcs c nets pips)
    (hadm : (c.wireBinding w).admits net pass.strength = true) : c.wireBinding w = none :=
  h.free (fun hown => h.fresh w net hown (by simp)) hadm

theorem take (h : Forest pass rest arcs c nets pips) (hc' : c'.Coherent)
    (hchange : c.Change c' w (some t)) (hw : c.wireBinding w = none) (hnet : t.hold.net ∉ rest)
    (ht : t.hold.strength = pass.strength) {nets' pips' : Nat}
    (hclimb : c'.Climbs t.hold.net (c'.AtSource t.hold.net) w)
    (hroot : c'.AtSource t.hold.net w → t.driver = none)
    (hwires : pips' + nets' = pips + nets + 1) (hpips : c'.pipHolds.size = pips') :
    Forest pass rest arcs c' nets' pips' where
  strength y held hy := by
    by_cases hyw : y = w
    · rw [hyw, hchange.wireBinding_self] at hy
      obtain rfl := Option.some.inj hy
      exact ht
    · exact h.strength y held (by rw [← hchange.wireBinding_of_ne hyw]; exact hy)
  nodup := h.nodup
  fresh y m hy := by
    by_cases hyw : y = w
    · rw [hyw, hchange.wireNet_new] at hy
      exact Option.some.inj hy ▸ hnet
    · exact h.fresh y m (by rw [wireNet, ← hchange.wireBinding_of_ne hyw]; exact hy)
  climbs y m hy := by
    by_cases hyw : y = w
    · rw [hyw, hchange.wireNet_new] at hy
      obtain rfl := Option.some.inj hy
      exact hyw ▸ hclimb
    · have hold : c.wireNet y = some m := by rw [wireNet, ← hchange.wireBinding_of_ne hyw]; exact hy
      refine (h.climbs y m hold).change hc' hchange (fun z hz => ?_) fun hown => ?_
      · have hzw : z ≠ w := by
          rintro rfl
          simp [AtSource, wireNet, hw] at hz
        exact (atSource_of_change hchange hzw).2 hz
      · simp [wireNet, hw] at hown
  root y m hy := by
    by_cases hyw : y = w
    · subst y
      obtain rfl : t.hold.net = m := Option.some.inj (hchange.wireNet_new.symm.trans hy.2)
      rw [hchange.drivingPip_new, hroot hy]
      rfl
    · rw [hchange.drivingPip_of_ne hyw]
      exact h.root y m ((atSource_of_change hchange hyw).1 hy)
  wires := by
    rw [hchange.size_wireHolds hw, h.wires, hwires]
  pips := hpips
  arcs m user huser := by
    obtain ⟨y, hport, hy⟩ := h.arcs m user huser
    have hyw : y ≠ w := by
      rintro rfl
      simp [wireNet, hw] at hy
    refine ⟨y, ?_, ?_⟩
    · rw [portWire_of_unrouted hchange.unrouted]
      exact hport
    · rw [wireNet, hchange.wireBinding_of_ne hyw]
      exact hy

theorem source (h : Forest pass (net :: rest) arcs c nets pips) (hc : c.Coherent)
    (hsource : c.sourceWire net = .ok (some w))
    (hbind : c.bindWire w net pass.strength = .ok (.ok c')) :
    Forest pass rest arcs c' (nets + 1) pips := by
  obtain ⟨hfresh, hnodup⟩ := List.nodup_cons.1 h.nodup
  obtain ⟨_, hadm, hchange⟩ := bindWire_change hc hbind
  have hw : c.wireBinding w = none := h.source_free hadm
  have hdriver : c.driverOf net w = none := by
    rw [driverOf, hc.drivingPip_eq_none (by simp [wireNet, hw])]
    rfl
  rw [hw, hdriver] at hchange
  have hrest : Forest pass rest arcs c nets pips :=
    { h with nodup := hnodup, fresh := fun y m hy hm => h.fresh y m hy (by simp [hm]) }
  refine hrest.take (hc.bindWire hbind) hchange hw hfresh rfl ?_ (fun _ => rfl) (by omega) ?_
  · exact .stop ⟨sourceWire_of_unrouted hchange.unrouted.symm hsource, hchange.wireNet_new⟩
  · rw [hchange.pipHolds_eq hw rfl]
    exact h.pips

theorem graft (h : Forest pass rest arcs c nets pips) (hc : c.Coherent)
    (hgraft : c.Graft pass net p) (hbind : c.bindPip p net pass.strength = .ok (.ok c')) :
    Forest pass rest arcs c' nets (pips + 1) := by
  obtain ⟨y, hy, hleg⟩ := hgraft.leg
  obtain ⟨x, hx, hforeign, _, hadm, hchange⟩ := hgraft.change hc hbind
  have hfree : c.wireBinding x = none := h.free hforeign hadm
  have hc' := hc.bindPip hbind
  rw [hfree] at hchange
  have hdrive : c'.drivingPip net x = some p := hchange.drivingPip_new
  have hyx : y ≠ x := by
    rintro rfl
    exact hforeign hy
  refine h.take hc' hchange hfree (h.fresh y net hy) rfl ?_ ?_ (by omega) ?_
  · have hsrc : c'.device.pipSrcWire p = .ok y := by
      rw [hchange.device_eq]
      exact hleg.src
    refine .pip hchange.wireNet_new hdrive ((hc'.pip_iff p net).2 ⟨x, hdrive⟩) hsrc ?_
    refine (h.climbs y net hy).change hc' hchange (fun z hz => ?_) fun hown => ?_
    · have hzx : z ≠ x := by
        rintro rfl
        exact hforeign hz.2
      exact (atSource_of_change hchange hzx).2 hz
    · exact absurd hown hforeign
  · -- the net holds its source already
    intro hsource
    obtain ⟨z, hz, hzown⟩ := (h.climbs y net hy).exists_stop
    have hsource := sourceWire_of_unrouted hchange.unrouted hsource.1
    obtain rfl : z = x := Option.some.inj (Except.ok.inj (hz.symm.trans hsource))
    exact absurd hzown hforeign
  · rw [hchange.size_pipHolds hfree rfl hgraft.unbound, h.pips]

theorem start (hrest : rest.Nodup) (hw : c.wireHolds = ∅) (hp : c.pipHolds = ∅) :
    Forest pass rest [] c 0 0 := by
  have hbinding := wireBinding_of_empty hw
  refine ⟨?_, hrest, ?_, ?_, ?_, ?_, ?_, ?_⟩
  · intro w held h
    simp [hbinding] at h
  · intro w net h
    simp [wireNet, hbinding] at h
  · intro w net h
    simp [wireNet, hbinding] at h
  · intro w net h
    simp [AtSource, wireNet, hbinding] at h
  · rw [hw]
    rfl
  · rw [hp]
    rfl
  · intro net user h
    cases h

theorem keeps (hd : c.device.AdjacencyConsistent) : pass.Keeps c (Forest pass) := by
  refine ⟨?_, ?_, ?_, ?_⟩
  · intro net rest arcs c n k h
    exact { h with
      nodup := (List.nodup_cons.1 h.nodup).2
      fresh := fun y m hy hm => h.fresh y m hy (by simp [hm]) }
  · intro net rest arcs c c' n k w _ hc _ h hsource hbind
    exact h.source hc hsource hbind
  · intro net rest arcs c c' n k p _ hc _ h hgraft hbind
    exact h.graft hc (hgraft hd) hbind
  · intro net rest arcs c n k user sink _ hc _ h hport hsink
    refine { h with arcs := fun m u hu => ?_ }
    rcases List.mem_append.1 hu with hu | hu
    · exact h.arcs m u hu
    · obtain ⟨rfl, rfl⟩ : m = net ∧ u = user := by simpa using hu
      exact ⟨sink, hport, hsink hd⟩

end Forest

/-! ### The order of the nets -/

theorem constantNets_nodup (hn : c.netlist.Indexed) : (c.passNets .constant).Nodup := by
  rw [passNets]
  cases hv : c.netlist.netByName Netlist.vccName with
  | none =>
    rw [List.filterMap_cons_none hv]
    cases hg : c.netlist.netByName Netlist.gndName with
    | none => simp [hg]
    | some g => simp [hg]
  | some v =>
    rw [List.filterMap_cons_some hv]
    cases hg : c.netlist.netByName Netlist.gndName with
    | none => simp [hg]
    | some g =>
      have hne : v ≠ g := by
        rintro rfl
        exact absurd ((hn _ _ hv).2 _ hg) (by decide)
      simp [hg, hne]

theorem passOrder_nodup (hn : c.netlist.Indexed) (pass : Pass) : (c.passOrder pass).Nodup := by
  cases pass with
  | constant => exact constantNets_nodup hn
  | clock => exact (netsByName_perm c.netlist).nodup_iff.2 List.nodup_range

/-- A pass that starts with nothing bound and succeeds leaves every wire of a net hanging from the
net's source by pips of the net, and the wire at every arc that it counts as routed with the net. The
tables hold what the report counts, and the report counts every user once. -/
theorem routed_trees {d : Device} (h : Reachable d c) (hd : c.device.AdjacencyConsistent)
    (hw : c.wireHolds = ∅) (hp : c.pipHolds = ∅) {log : Log} {o : PassOutcome}
    {report : RouteReport} (ho : c.routePass log pass = .ok o) (hreport : o.result = .ok report) :
    (∀ w net, o.ctx.wireNet w = some net → ∃ source, o.ctx.sourceWire net = .ok (some source) ∧
      (w = source → o.ctx.drivingPip net w = none) ∧
      (w ≠ source → ∃ p x, o.ctx.drivingPip net w = some p ∧ o.ctx.pipNet p = some net ∧
        o.ctx.device.pipSrcWire p = .ok x ∧ o.ctx.wireNet x = some net) ∧
      o.ctx.Climbs net (· = source) w) ∧
    (∀ net user, (net, user) ∈ c.passArcs log pass → ∃ w, o.ctx.portWire user = .ok (some w) ∧
      o.ctx.wireBinding w = some ⟨net, pass.strength⟩) ∧
    (c.passArcs log pass).length = report.arcsRouted ∧
    o.ctx.pipHolds.size = report.pipsBound ∧
    o.ctx.wireHolds.size = report.pipsBound + report.nets ∧
    report.arcsRouted + report.arcsLeft = c.passUsers pass ∧
    (pass = .constant → report.arcsLeft = 0) := by
  have hstart : Forest pass (c.passOrder pass) [] c 0 0 :=
    .start (passOrder_nodup h.indexed pass) hw hp
  obtain ⟨_, _, hforest, _⟩ := routePass_keeps (Forest.keeps hd) h.coherent hstart ho
  have hforest := hforest report hreport
  have hcounts := routePass_counts h.coherent ho hreport
  refine ⟨?_, ?_, hcounts.routed.symm, hforest.pips, hforest.wires, hcounts.tried, hcounts.left⟩
  · intro w net hnet
    have hclimbs := hforest.climbs w net hnet
    obtain ⟨source, hsource, hown⟩ := hclimbs.exists_stop
    refine ⟨source, hsource, ?_, ?_, ?_⟩
    · rintro rfl
      exact hforest.root w net ⟨hsource, hown⟩
    · intro hne
      cases hclimbs with
      | stop hstop => exact absurd (Option.some.inj (Except.ok.inj (hstop.1.symm.trans hsource))) hne
      | pip _ hdrive hpip hsrc hrest =>
        refine ⟨_, _, hdrive, hpip, hsrc, ?_⟩
        cases hrest with
        | stop hstop => exact hstop.2
        | pip hx => exact hx
    · exact hclimbs.imp fun x hx => Option.some.inj (Except.ok.inj (hx.1.symm.trans hsource))
  · intro net user huser
    obtain ⟨w, hport, hnet⟩ := hforest.arcs net user huser
    obtain ⟨held, hheld, rfl⟩ := Option.map_eq_some_iff.1 hnet
    refine ⟨w, hport, ?_⟩
    rw [hheld, ← hforest.strength w held hheld]

/-! A tile where power and a clock lead to the same wire. -/

/-- Wires 0 and 1 drive wire 2. Bel 0 drives wire 0, bel 1 wire 1, and bels 2 and 3 are fed by wire
2. -/
def crossingRecord : ChipRecord where
  name := "xc7a"
  generator := ""
  width := 1
  height := 1
  knownIdCount := Known.count
  extraIds := #[]
  tileTypes := #[{
    typeName := 0
    bels := #[⟨0, 0, 0, none, false, #[⟨Known.ident "O", 0, .output⟩], none⟩,
      ⟨0, 0, 1, none, false, #[⟨Known.ident "O", 1, .output⟩], none⟩,
      ⟨0, 0, 2, none, false, #[⟨Known.ident "CK", 2, .input⟩], none⟩,
      ⟨0, 0, 3, none, false, #[⟨Known.ident "CK", 2, .input⟩], none⟩]
    wires := #[⟨0, 0, none, #[], #[0], #[]⟩, ⟨0, 0, none, #[], #[1], #[]⟩,
      ⟨0, 0, none, #[0, 1], #[], #[]⟩]
    pips := #[⟨0, 2, none, none, .tile, none⟩, ⟨1, 2, none, none, .tile, none⟩] }]
  tiles := #[⟨"T", 0, #[], #[none, none, none]⟩]
  nodes := #[]
  timing := none

def crossing : Device where
  db := ⟨crossingRecord, ⟨[]⟩, rfl⟩
  ids := .empty
  tileIndex := ∅
  siteIndex := ∅
  pinSites := ∅
  blacklist := .empty

/-- Power drives cell 2 and the clock of cell 1 drives cell 3. -/
def crossingActs : List Act :=
  [.edit (.net Netlist.vccName), .edit (.net "clk"),
   .edit (.cell "vcc" 0), .edit (.cell "buf" (Known.ident "BUFGCTRL")),
   .edit (.cell "a" 0), .edit (.cell "b" 0),
   .edit (.port 0 (Known.ident "O") .output), .edit (.port 1 (Known.ident "O") .output),
   .edit (.port 2 (Known.ident "CK") .input), .edit (.port 3 (Known.ident "CK") .input),
   .edit (.connect 0 (Known.ident "O") 0), .edit (.connect 1 (Known.ident "O") 1),
   .edit (.connect 2 (Known.ident "CK") 0), .edit (.connect 3 (Known.ident "CK") 1),
   .bindBel ⟨0, 0⟩ 0 .strong, .bindBel ⟨0, 1⟩ 1 .strong,
   .bindBel ⟨0, 2⟩ 2 .strong, .bindBel ⟨0, 3⟩ 3 .strong]

theorem netsByName_crossing {n : Netlist}
    (hnames : n.nets.toList.map (·.name) = [Netlist.vccName, "clk"]) : n.netsByName = [0, 1] := by
  have hsorted : [Netlist.vccName, "clk"].Pairwise (· ≤ ·) := by decide +kernel
  have hsize := congrArg List.length hnames
  rw [List.length_map, Array.length_toList] at hsize
  rw [netsByName_of_sorted (hnames ▸ hsorted), hsize]
  rfl

theorem routeClocks_crossing {log : Log}
    (hnames : c.netlist.nets.toList.map (·.name) = [Netlist.vccName, "clk"]) :
    c.routeClocks log = PassOutcome.of ([0, 1].foldlM routeClock
      (({ ctx := c, log } : PassState).note 2 "routing global clocks")) := by
  rw [routeClocks, netsByName_crossing hnames]

theorem crossing_ready (h : Act.performAll { device := crossing } crossingActs = .ok c) :
    Reachable crossing c ∧ c.device.AdjacencyConsistent ∧ c.wireHolds = ∅ ∧ c.pipHolds = ∅ := by
  have hchecks : (do
      let c ← Act.performAll { device := crossing } crossingActs
      return (c.device.checkAdjacency, c.wireHolds.isEmpty, c.pipHolds.isEmpty)) =
        Except.ok (true, true, true) := by decide +kernel
  obtain ⟨c', hc', hchecks⟩ := bind_eq_ok_iff.1 hchecks
  obtain rfl : c' = c := Except.ok.inj (hc'.symm.trans h)
  obtain ⟨hadjacency, hholds⟩ := Prod.mk.inj (Except.ok.inj hchecks)
  obtain ⟨hwires, hpips⟩ := Prod.mk.inj hholds
  exact ⟨Run.start.performAll (fun _ _ _ => trivial) h, Device.checkAdjacency_iff.1 hadjacency,
    Std.ExtTreeMap.isEmpty_iff.1 hwires, Std.ExtTreeMap.isEmpty_iff.1 hpips⟩

/-- The sink of power is driven from the wire of its source. -/
theorem routed_trees_crossing : ∃ c o report,
    Act.performAll { device := crossing } crossingActs = .ok c ∧
    c.routePass {} .constant = .ok o ∧ o.result = .ok report ∧
    (0, ⟨2, Known.ident "CK"⟩) ∈ c.passArcs {} .constant ∧
    o.ctx.portWire ⟨2, Known.ident "CK"⟩ = .ok (some (.tile 0 2)) ∧
    o.ctx.wireBinding (.tile 0 2) = some ⟨0, .strong⟩ ∧
    o.ctx.drivingPip 0 (.tile 0 2) = some ⟨0, 0⟩ ∧ o.ctx.Climbs 0 (· = .tile 0 0) (.tile 0 2) ∧
    o.ctx.pipHolds.size = report.pipsBound ∧
    o.ctx.wireHolds.size = report.pipsBound + report.nets ∧
    report.arcsRouted + report.arcsLeft = c.passUsers .constant := by
  have hroute : (do
      let c ← Act.performAll { device := crossing } crossingActs
      let o ← c.routePass {} .constant
      let sink ← o.ctx.portWire ⟨2, Known.ident "CK"⟩
      let source ← o.ctx.sourceWire 0
      return decide (o.result.toOption.isSome ∧ (0, ⟨2, Known.ident "CK"⟩) ∈ c.constantArcs {} ∧
        sink = some (.tile 0 2) ∧ source = some (.tile 0 0) ∧
        o.ctx.drivingPip 0 (.tile 0 2) = some ⟨0, 0⟩)) = Except.ok true := by decide +kernel
  obtain ⟨c, hc, hroute⟩ := bind_eq_ok_iff.1 hroute
  obtain ⟨o, ho, hroute⟩ := bind_eq_ok_iff.1 hroute
  obtain ⟨sink, hsink, hroute⟩ := bind_eq_ok_iff.1 hroute
  obtain ⟨source, hsource, hroute⟩ := bind_eq_ok_iff.1 hroute
  obtain ⟨hresult, harc, rfl, rfl, hdrive⟩ := of_decide_eq_true (Except.ok.inj hroute)
  obtain ⟨hreach, hd, hw, hp⟩ := crossing_ready hc
  cases hreport : o.result with
  | error e =>
    rw [hreport] at hresult
    cases hresult
  | ok report =>
    obtain ⟨htree, harcs, -, hpips, hwires, hcounts, -⟩ := routed_trees hreach hd hw hp ho hreport
    obtain ⟨w, hport, hbound⟩ := harcs 0 _ harc
    obtain rfl := Option.some.inj (Except.ok.inj (hsink.symm.trans hport))
    obtain ⟨x, hx, -, -, hclimbs⟩ := htree _ 0 (by rw [wireNet, hbound]; rfl)
    obtain rfl := Option.some.inj (Except.ok.inj (hsource.symm.trans hx))
    exact ⟨c, o, report, hc, ho, hreport, harc, hsink, hbound, hdrive, hclimbs, hpips, hwires, hcounts⟩

end Interconnect.Context
