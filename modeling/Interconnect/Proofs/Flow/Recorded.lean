import Interconnect.Flow
import Interconnect.Proofs.Device.Member
import Interconnect.Proofs.Ownership.Run
import Interconnect.Proofs.Routing.Ends
/-!
# Recorded steps

A step of a run prepares an engine's input, runs it, and may record itself. The passes before an engine
leave the attributes of a design alone, even where they fail. Placing is recorded if the placer converged.
Routing is recorded if the router did not fail, also where it did not converge.
-/
namespace Interconnect

/-! ### Passes leave attributes alone -/

/-- A pass under way, or one that failed, has changed the routing of a context at most. -/
abbrev Rerouting (c : Context) (r : Except Halt PassState) : Prop :=
  Ends (fun s => s.ctx.unrouted = c.unrouted) (fun _ s => s.ctx.unrouted = c.unrouted) r

section
variable {c : Context} {pass : Pass} {net : NetId} {name : String} {s : PassState} {user : PortRef}

theorem Pass.rerouting_path {path : List PipId} (hs : s.ctx.unrouted = c.unrouted) :
    Rerouting c (path.foldlM (pass.bindStep net name) s) := by
  refine Ends.foldlM (pass.bindStep net name) (fun _ s => s.ctx.unrouted = c.unrouted) ?_ hs
  intro p path s hs
  exact bindStep_ends (fun _ _ => hs) fun _ _ hbind => (Context.unrouted_of_bindPip hbind).trans hs

theorem Pass.rerouting_routeArc (hs : s.ctx.unrouted = c.unrouted) :
    Rerouting c (pass.routeArc net name s user) :=
  routeArc_ends (fun _ _ _ _ => hs) (fun _ _ => hs) fun _ _ _ _ _ _ => rerouting_path hs

theorem Pass.rerouting_routeNet (hs : s.ctx.unrouted = c.unrouted) :
    Rerouting c (pass.routeNet s net) := by
  refine Ends.ask fun n _ => ?_
  have hsource : Rerouting c (pass.claimSource net n.name s) :=
    claimSource_ends (fun _ _ => hs) fun _ _ _ hbind => (Context.unrouted_of_bindWire hbind).trans hs
  refine hsource.bind fun s hs => ?_
  refine Ends.foldlM (pass.routeArc net n.name) (fun _ s => s.ctx.unrouted = c.unrouted) ?_ hs
  intro user users s hs
  exact rerouting_routeArc hs

end

namespace Context

variable {c c' : Context} {s : PassState} {log log' : Log}

theorem rerouting_routeConstant {name : String} (hs : s.ctx.unrouted = c.unrouted) :
    Rerouting c (routeConstant s name) := by
  unfold routeConstant
  split
  · exact hs
  · exact Pass.rerouting_routeNet hs

theorem rerouting_routeClock {net : NetId} (hs : s.ctx.unrouted = c.unrouted) :
    Rerouting c (routeClock s net) := by
  refine Ends.ask fun n _ => Ends.ask fun driver _ => ?_
  split
  · exact hs
  · split
    · exact hs
    · exact Pass.rerouting_routeNet hs

theorem unrouted_of_outcome {r : Except Halt PassState} {o : PassOutcome} (h : Rerouting c r)
    (ho : PassOutcome.of r = .ok o) : o.ctx.unrouted = c.unrouted := by
  rcases h.outcome ho with ⟨s, hs, rfl⟩ | ⟨s, e, hs, rfl⟩
  · exact hs
  · exact hs

theorem unrouted_of_routeConstants {o : PassOutcome} (h : c.routeConstants log = .ok o) :
    o.ctx.unrouted = c.unrouted := by
  refine unrouted_of_outcome
    (Ends.foldlM routeConstant (fun _ s => s.ctx.unrouted = c.unrouted) ?_ rfl) h
  intro name names s hs
  exact rerouting_routeConstant hs

theorem unrouted_of_routeClocks {o : PassOutcome} (h : c.routeClocks log = .ok o) :
    o.ctx.unrouted = c.unrouted := by
  refine unrouted_of_outcome
    (Ends.foldlM routeClock (fun _ s => s.ctx.unrouted = c.unrouted) ?_ rfl) h
  intro net nets s hs
  exact rerouting_routeClock hs

theorem attrs_of_preRoute {before : Except RouteError PreRouteSummary}
    (h : c.preRoute log = .ok (before, c', log')) : c'.attrs = c.attrs := by
  obtain ⟨constants, hconstants, h⟩ := bind_eq_ok_iff.1 h
  have hfirst : constants.ctx.attrs = c.attrs := attrs_of_unrouted (unrouted_of_routeConstants hconstants)
  split at h
  · cases Except.ok.inj h
    exact hfirst
  · obtain ⟨clocks, hclocks, h⟩ := bind_eq_ok_iff.1 h
    have hsecond : clocks.ctx.attrs = c.attrs :=
      (attrs_of_unrouted (unrouted_of_routeClocks hclocks)).trans hfirst
    split at h
    · cases Except.ok.inj h
      exact hsecond
    · obtain ⟨sinks, hsinks, h⟩ := bind_eq_ok_iff.1 h
      obtain ⟨places, hctx⟩ := findSinkLocations_ctx hsinks
      cases Except.ok.inj h
      rw [hctx]
      exact hsecond

end Context

/-! ### What an engine is handed and leaves -/

def placingNote (kind : PlacerKind) : Diagnostic where
  severity := .note
  code := ⟨.placement, 1⟩
  message := s!"placing with the '{kind.name}' placer"

def routingNote (summary : PreRouteSummary) : Diagnostic :=
  let pips := summary.constants.pipsBound + summary.clocks.pipsBound
  { severity := .note
    code := ⟨.routing, 9⟩
    message := s!"dedicated routing bound {pips} pips; " ++
      s!"{summary.clocks.arcsLeft} clock arcs left for the general router" }

/-- An engine's answer as the outcome of a step that is not recorded. -/
def StepOutcome.ofEngine (answer : Except String Bool × Context × Log) : StepOutcome :=
  ⟨answer.1.mapError .engine, answer.2.1, answer.2.2⟩

/-- The outcome with the step recorded in it, under a condition. -/
def StepOutcome.recordIf (o : StepOutcome) (step : String) (completed : Bool) : StepOutcome :=
  if completed then { o with ctx := o.ctx.recordStep step } else o

namespace Context

/-- What placing comes to without its record: the settings name no placer, or the placer has run. -/
inductive Placed (c : Context) (engine : PlacerSetup → Engine) (log : Log) : StepOutcome → Prop
  | refused {e : SettingsError} (h : c.selectedPlacer = .error e) :
    Placed c engine log ⟨.error (.settings e), c, log⟩
  | ran {kind : PlacerKind} {answer : Except String Bool × Context × Log}
    (h : c.selectedPlacer = .ok kind)
    (hran : engine (.ofKind kind) c (log.emit (placingNote kind)) = .ok answer) :
    Placed c engine log (.ofEngine answer)

/-- What routing comes to without its record: a pass has failed, or the router has run behind the passes. -/
inductive Routed (c : Context) (engine : Engine) (log : Log) : StepOutcome → Prop
  | refused {e : RouteError} {c' : Context} {log' : Log}
    (h : c.preRoute log = .ok (.error e, c', log')) :
    Routed c engine log ⟨.error (.routing e), c', log'⟩
  | ran {summary : PreRouteSummary} {c' : Context} {log' : Log}
    {answer : Except String Bool × Context × Log}
    (h : c.preRoute log = .ok (.ok summary, c', log'))
    (hran : engine c' (log'.emit (routingNote summary)) = .ok answer) :
    Routed c engine log (.ofEngine answer)

variable {c : Context} {log : Log} {o : StepOutcome}

theorem place_eq_ok_iff {engine : PlacerSetup → Engine} : c.place engine log = .ok o ↔
    ∃ left, c.Placed engine log left ∧ o = left.recordIf "place" (left.result = .ok true) := by
  constructor
  · intro h
    unfold place at h
    split at h
    · next e he =>
      obtain rfl := Except.ok.inj h
      exact ⟨_, .refused he, rfl⟩
    · next kind hkind =>
      obtain ⟨⟨result, c', log'⟩, hran, h⟩ := bind_eq_ok_iff.1 h
      refine ⟨_, .ran hkind hran, ?_⟩
      rcases result with m | _ | _ <;> exact (Except.ok.inj h).symm
  · rintro ⟨left, hleft, rfl⟩
    cases hleft with
    | refused h =>
      rw [place, h]
      rfl
    | @ran kind answer h hran =>
      obtain ⟨result, c', log'⟩ := answer
      rw [place, h]
      change engine (.ofKind kind) c (log.emit (placingNote kind)) >>= _ = _
      rw [hran]
      rcases result with m | _ | _ <;> rfl

theorem route_eq_ok_iff {engine : Engine} : c.route engine log = .ok o ↔
    ∃ left, c.Routed engine log left ∧ o = left.recordIf "route" left.result.isOk := by
  constructor
  · intro h
    obtain ⟨⟨before, c', log'⟩, hpre, h⟩ := bind_eq_ok_iff.1 h
    cases before with
    | error e =>
      obtain rfl := Except.ok.inj h
      exact ⟨_, .refused hpre, rfl⟩
    | ok summary =>
      obtain ⟨⟨result, c'', log''⟩, hran, h⟩ := bind_eq_ok_iff.1 h
      refine ⟨_, .ran hpre hran, ?_⟩
      rcases result with m | converged <;> exact (Except.ok.inj h).symm
  · rintro ⟨left, hleft, rfl⟩
    cases hleft with
    | refused h =>
      rw [route, h]
      rfl
    | @ran summary c' log' answer h hran =>
      obtain ⟨result, c'', log''⟩ := answer
      rw [route, h]
      change engine c' (log'.emit (routingNote summary)) >>= _ = _
      rw [hran]
      rcases result with m | converged <;> rfl

/-- A record shows in the attributes unless they say already what it would put there. -/
theorem attrs_recordIf_eq_iff {step : String} {completed completed' : Bool} :
    (o.recordIf step completed).ctx.attrs = (o.recordIf step completed').ctx.attrs ↔
      (completed ≠ completed' → o.ctx.attrs["step"]? = some step) := by
  have hinsert : o.ctx.attrs.insert "step" step = o.ctx.attrs ↔ o.ctx.attrs["step"]? = some step := by
    constructor
    · intro h
      rw [← h, Std.ExtTreeMap.getElem?_insert_self]
    · intro h
      apply Std.ExtTreeMap.ext_getElem?
      intro key
      rw [Std.ExtTreeMap.getElem?_insert]
      split
      · next hkey => rw [← h, Std.compare_eq_iff_eq.1 hkey]
      · rfl
  cases completed <;> cases completed' <;>
    simp [StepOutcome.recordIf, recordStep, hinsert, eq_comm (b := o.ctx.attrs.insert "step" step)]

/-- Placing is recorded where the placer converged, and nowhere else. Routing is recorded where the router has
run and not failed. The attributes are then those of a step that is recorded only where it converged unless
the router says that it did not converge, and the attributes that it leaves do not say that routing was
recorded before. What the passes leave behind has the attributes that were there. -/
theorem steps_recorded (c : Context) (log : Log) :
    (∀ engine o, c.place engine log = .ok o ↔
      ∃ left, c.Placed engine log left ∧ o = left.recordIf "place" (left.result = .ok true)) ∧
    (∀ engine o, c.route engine log = .ok o ↔
      ∃ left, c.Routed engine log left ∧ o = left.recordIf "route" left.result.isOk) ∧
    (∀ left : StepOutcome, (left.recordIf "route" left.result.isOk).ctx.attrs =
        (left.recordIf "route" (left.result = .ok true)).ctx.attrs ↔
      (left.result = .ok false → left.ctx.attrs["step"]? = some "route")) ∧
    ∀ before c' log', c.preRoute log = .ok (before, c', log') → c'.attrs = c.attrs := by
  refine ⟨fun engine o => place_eq_ok_iff, fun engine o => route_eq_ok_iff, fun left => ?_,
    fun before c' log' => attrs_of_preRoute⟩
  have hdiffer : left.result.isOk ≠ decide (left.result = .ok true) ↔ left.result = .ok false := by
    rcases left.result with e | _ | _ <;> simp [Except.isOk, Except.toBool]
  rw [attrs_recordIf_eq_iff, hdiffer]

/-! A device of one tile without wires, and a design without nets, which the passes have nothing to do for. -/

def bareRecord : ChipRecord where
  name := "xc7a"
  generator := ""
  width := 1
  height := 1
  knownIdCount := Known.count
  extraIds := #[]
  tileTypes := #[{ typeName := 0 }]
  tiles := #[⟨"T", 0, #[], #[]⟩]
  nodes := #[]
  timing := none

theorem bareRecord_opens : ∃ d, Device.ofDatabase ⟨bareRecord, ⟨[]⟩, rfl⟩ = .ok (.ok d) :=
  Device.exists_ofDatabase (by simpa [bareRecord] using Known.names_nodup)

theorem preRoute_of_no_nets (d : Device) : ∃ summary c' log',
    preRoute { device := d } {} = .ok (.ok summary, c', log') := by
  have hsorted : Netlist.netsByName {} = [] := by simp [Netlist.netsByName]
  have hstep (name : String) : routeConstant { ctx := { device := d }, log := {} } name =
      .ok { ctx := { device := d }, log := {} } := by
    simp [routeConstant, Netlist.netByName]
  have hconstants : routeConstants { device := d } {} = .ok ⟨.ok {}, { device := d }, {}⟩ := by
    simp only [routeConstants, List.foldlM_cons, List.foldlM_nil, hstep, bind, Except.bind]
    rfl
  have hclocks : ∃ log, routeClocks { device := d } {} = .ok ⟨.ok {}, { device := d }, log⟩ := by
    rw [routeClocks, hsorted]
    exact ⟨_, rfl⟩
  obtain ⟨log, hclocks⟩ := hclocks
  have hsinks : ∃ log', findSinkLocations { device := d } log = .ok ⟨{ device := d }, log', 0⟩ := by
    rw [findSinkLocations, hsorted]
    exact ⟨_, rfl⟩
  obtain ⟨log', hsinks⟩ := hsinks
  refine ⟨⟨{}, {}, 0⟩, { device := d }, log', ?_⟩
  rw [preRoute, hconstants]
  change routeClocks { device := d } {} >>= _ = _
  rw [hclocks]
  change findSinkLocations { device := d } log >>= _ = _
  rw [hsinks]
  rfl

/-- A placer that converges, one that does not, and the passes. -/
theorem steps_recorded_bare : ∃ db d o o' summary c' log',
    ChipDatabase.ofRecord bareRecord ⟨[]⟩ = .ok db ∧ Device.ofDatabase db = .ok (.ok d) ∧
    place { device := d } (fun _ c log => .ok (.ok true, c, log)) {} = .ok o ∧
    o.result = .ok true ∧ o.ctx.attrs["step"]? = some "place" ∧
    place { device := d } (fun _ c log => .ok (.ok false, c, log)) {} = .ok o' ∧
    o'.result = .ok false ∧ o'.ctx.attrs["step"]? = none ∧
    preRoute { device := d } {} = .ok (.ok summary, c', log') ∧ c'.attrs = ∅ := by
  have accepted : ChipDatabase.ofRecord bareRecord ⟨[]⟩ = .ok ⟨bareRecord, ⟨[]⟩, rfl⟩ := rfl
  obtain ⟨d, opened⟩ := bareRecord_opens
  obtain ⟨summary, c', log', hpasses⟩ := preRoute_of_no_nets d
  obtain ⟨hplace, -, -, hattrs⟩ := steps_recorded { device := d } {}
  have hkind : selectedPlacer { device := d } = .ok .sa := by simp [selectedPlacer]
  refine ⟨_, d, _, _, summary, c', log', accepted, opened,
    (hplace _ _).2 ⟨_, .ran hkind rfl, rfl⟩, rfl, ?_,
    (hplace _ _).2 ⟨_, .ran hkind rfl, rfl⟩, rfl, ?_, hpasses, hattrs _ c' log' hpasses⟩
  · exact Std.ExtTreeMap.getElem?_insert_self
  · exact Std.ExtTreeMap.getElem?_empty

/-- A router that does not converge, on a design without attributes, which neither the passes nor the router
give it. Routing is recorded all the same. -/
theorem unconverged_route_recorded : ∃ db d left o,
    ChipDatabase.ofRecord bareRecord ⟨[]⟩ = .ok db ∧ Device.ofDatabase db = .ok (.ok d) ∧
    Routed { device := d } (fun c log => .ok (.ok false, c, log)) {} left ∧
    left.result = .ok false ∧ left.ctx.attrs = ∅ ∧
    route { device := d } (fun c log => .ok (.ok false, c, log)) {} = .ok o ∧
    o.result = .ok false ∧ o.ctx.attrs["step"]? = some "route" := by
  have accepted : ChipDatabase.ofRecord bareRecord ⟨[]⟩ = .ok ⟨bareRecord, ⟨[]⟩, rfl⟩ := rfl
  obtain ⟨d, opened⟩ := bareRecord_opens
  obtain ⟨summary, c', log', hpasses⟩ := preRoute_of_no_nets d
  have hrouted : Routed { device := d } (fun c log => .ok (.ok false, c, log)) {} _ := .ran hpasses rfl
  refine ⟨_, d, _, _, accepted, opened, hrouted, rfl, attrs_of_preRoute hpasses,
    route_eq_ok_iff.2 ⟨_, hrouted, rfl⟩, rfl, ?_⟩
  exact Std.ExtTreeMap.getElem?_insert_self

end Context
end Interconnect
