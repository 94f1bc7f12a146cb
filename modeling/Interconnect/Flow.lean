import Interconnect.Routing.SinkLocation
/-!
# The steps of a run

Placement and general routing are engines from outside. A step prepares an engine's input, runs it,
and records itself in the attributes of the design.
-/
namespace Interconnect

/-- What a placement engine is told. -/
structure PlacerSetup where
  kind : PlacerKind
  /-- The exponent of a net's criticality, for placers that use one. -/
  exponent : Option Nat
  /-- Cell types that count as buffers of inputs and outputs. -/
  ioTypes : List Ident
  deriving DecidableEq, Repr

def PlacerSetup.ofKind : PlacerKind → PlacerSetup
  | .heap => ⟨.heap, some 7,
      ["IOB_IBUFCTRL", "IOB_OUTBUF", "PSEUDO_GND", "PSEUDO_VCC"].map Known.ident⟩
  | .sa => ⟨.sa, none, []⟩

inductive StepError where
  | settings (e : SettingsError)
  | routing (e : RouteError)
  /-- The engine failed with a message. -/
  | engine (message : String)
  deriving DecidableEq, Repr

/-- An internal error with a message from outside. -/
def engineErrorText (message : String) : String := s!"internal error: {message}"

def StepError.message : StepError → String
  | settings e => e.message
  | routing e => e.message
  | engine m => engineErrorText m

/-- An engine turns a design and a log into others, and either says whether it converged or fails
with a message. -/
abbrev Engine := Context → Log → Query (Except String Bool × Context × Log)

/-- The outcome of a step: whether it converged, and what is left behind. -/
structure StepOutcome where
  result : Except StepError Bool
  ctx : Context
  log : Log

/-- What the passes before general routing have done. -/
structure PreRouteSummary where
  constants : RouteReport
  clocks : RouteReport
  sinks : Nat
  deriving DecidableEq, Repr

namespace Context

def selectedPlacer (c : Context) : Except SettingsError PlacerKind :=
  match c.settings["placer"]? with
  | some name => PlacerKind.ofName name
  | none => .ok c.defaultPlacer

/-- The design with a step recorded as completed. -/
def recordStep (c : Context) (step : String) : Context :=
  { c with attrs := c.attrs.insert "step" step }

/-- Places the design. -/
def place (c : Context) (engine : PlacerSetup → Engine) (log : Log) : Query StepOutcome :=
  match c.selectedPlacer with
  | .error e => .ok ⟨.error (.settings e), c, log⟩
  | .ok kind => do
    let log := log.emit { severity := .note, code := ⟨.placement, 1⟩
                          message := s!"placing with the '{kind.name}' placer" }
    let (result, c, log) ← engine (PlacerSetup.ofKind kind) c log
    match result with
    | .error m => return ⟨.error (.engine m), c, log⟩
    | .ok false => return ⟨.ok false, c, log⟩
    | .ok true => return ⟨.ok true, c.recordStep "place", log⟩

/-- Routes constants, then clocks, then locates sinks. -/
def preRoute (c : Context) (log : Log) :
    Query (Except RouteError PreRouteSummary × Context × Log) := do
  let constants ← c.routeConstants log
  match constants.result with
  | .error e => return (.error e, constants.ctx, constants.log)
  | .ok first =>
    let clocks ← constants.ctx.routeClocks constants.log
    match clocks.result with
    | .error e => return (.error e, clocks.ctx, clocks.log)
    | .ok second =>
      let sinks ← clocks.ctx.findSinkLocations clocks.log
      return (.ok ⟨first, second, sinks.located⟩, sinks.ctx, sinks.log)

/-- Routes the design: the passes first, then the general router, whose success alone decides
whether the step counts as recorded. -/
def route (c : Context) (engine : Engine) (log : Log) : Query StepOutcome := do
  let (before, c, log) ← c.preRoute log
  match before with
  | .error e => return ⟨.error (.routing e), c, log⟩
  | .ok summary =>
    let pips := summary.constants.pipsBound + summary.clocks.pipsBound
    let left := summary.clocks.arcsLeft
    let message := s!"dedicated routing bound {pips} pips; " ++
      s!"{left} clock arcs left for the general router"
    let log := log.emit { severity := .note, code := ⟨.routing, 9⟩, message }
    let (result, c, log) ← engine c log
    match result with
    | .error m => return ⟨.error (.engine m), c, log⟩
    | .ok routed => return ⟨.ok routed, c.recordStep "route", log⟩

end Context
end Interconnect
