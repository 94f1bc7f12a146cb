import Interconnect.Diagnostic
import Interconnect.Routing.Search
/-!
# Routing power, ground and clocks

Each net is bound at its source wire, and then each of its sinks is joined to what the net holds
already. A constant net must reach all of its sinks. A clock net leaves to the general router what
it cannot reach on clock resources.
-/
namespace Interconnect

/-- What a pass has done. -/
structure RouteReport where
  nets : Nat := 0
  arcsRouted : Nat := 0
  arcsLeft : Nat := 0
  pipsBound : Nat := 0
  deriving DecidableEq, Repr

/-- Why a pass gave up. -/
inductive RouteError where
  | noSource (net : String)
  | sourceRefused (net : String) (cause : BindError)
  | pinWithoutWire (pin : String)
  | sinkHeld (net wire pin : String)
  | noRoute (net wire : String)
  | pathRefused (net : String) (cause : BindError)
  deriving DecidableEq, Repr

/-- A sink wire that another net holds, in a sentence. -/
def sinkHeldText (wire pin : String) : String := s!"wire {wire} of {pin} is held by another net"

def RouteError.message : RouteError → String
  | noSource net => s!"internal error: net '{net}' has no driver wire"
  | sourceRefused net cause =>
    s!"internal error: cannot bind source of '{net}': " ++ cause.message
  | pinWithoutWire pin => s!"internal error: pin '{pin}' has no associated wire"
  | sinkHeld net wire pin =>
    s!"internal error: cannot route net '{net}': " ++ sinkHeldText wire pin
  | noRoute net wire => s!"internal error: no route from net '{net}' to wire {wire}"
  | pathRefused net cause =>
    s!"internal error: cannot bind dedicated path of '{net}': " ++ cause.message

/-- A pass under way. -/
structure PassState where
  ctx : Context
  log : Log
  report : RouteReport := {}

inductive Halt where
  | fault (f : Fault)
  /-- The pass failed; what it bound stays bound. -/
  | failed (e : RouteError) (s : PassState)

/-- The outcome of a whole pass: a report or the reason for failing, and what is left behind. -/
structure PassOutcome where
  result : Except RouteError RouteReport
  ctx : Context
  log : Log

namespace PassState

variable (s : PassState)

def ask {α : Type} (q : Query α) : Except Halt α := q.mapError .fault

def emit (d : Diagnostic) : PassState := { s with log := s.log.emit d }

def note (number : Nat) (message : String) : PassState :=
  s.emit { severity := .note, code := ⟨.routing, number⟩, message }

def debugNote (message : String) : PassState := if s.ctx.debug then s.note 5 message else s

/-- Counts an arc that is left to the general router. -/
def leave (arcs : Nat) : PassState :=
  { s with report := { s.report with arcsLeft := s.report.arcsLeft + arcs } }

end PassState

/-- Cell and port, as messages name them. -/
def Context.portName (c : Context) (port : PortRef) : Query String := do
  return s!"{(← c.netlist.cell port.cell).name}.{← c.device.nameOf port.port}"

namespace Pass

open PassState (ask)

/-- Binds one pip of a path. -/
def bindStep (pass : Pass) (net : NetId) (name : String) (s : PassState) (pip : PipId) :
    Except Halt PassState := do
  match ← ask (s.ctx.bindPip pip net pass.strength) with
  | .error e => throw (.failed (.pathRefused name e) s)
  | .ok ctx =>
    let s := { s with ctx }
    let s ← if ctx.debug then do
        let pipName ← ask (ctx.device.pipName pip)
        let wireName ← ask do ctx.device.wireName (← ctx.device.pipDstWire pip)
        pure (s.debugNote s!"bind pip {pipName} --> {wireName}")
      else pure s
    return { s with report := { s.report with pipsBound := s.report.pipsBound + 1 } }

/-- Gives an arc up: a constant net fails, a clock leaves the arc. -/
def giveUp (pass : Pass) (e : RouteError) (message : String) (s : PassState) :
    Except Halt PassState :=
  match pass with
  | constant => .error (.failed e s)
  | clock => .ok ((s.debugNote message).leave 1)

/-- Joins a sink wire to a net, unless a net that may keep it holds it. -/
def joinSink (pass : Pass) (net : NetId) (name : String) (user : PortRef) (sink : WireId)
    (s : PassState) : Except Halt PassState := do
  if !(s.ctx.wireBinding sink).admits net pass.strength then
    let wire ← ask (s.ctx.device.wireName sink)
    let pin ← ask (s.ctx.portName user)
    pass.giveUp (.sinkHeld name wire pin) (sinkHeldText wire pin) s
  else match ← ask (s.ctx.searchUphill pass net sink) with
    | none =>
      let wire ← ask (s.ctx.device.wireName sink)
      pass.giveUp (.noRoute name wire) "failed to find a route using dedicated resources" s
    | some path =>
      let s ← path.foldlM (pass.bindStep net name) s
      return { s with report := { s.report with arcsRouted := s.report.arcsRouted + 1 } }

/-- Joins one user of a net to it. -/
def routeArc (pass : Pass) (net : NetId) (name : String) (s : PassState) (user : PortRef) :
    Except Halt PassState := do
  match ← ask (s.ctx.portWire user) with
  | none =>
    let pin ← ask (s.ctx.portName user)
    pass.giveUp (.pinWithoutWire pin) s!"{pin} has no wire" s
  | some sink =>
    let s ← if s.ctx.debug then do
        let pin ← ask (s.ctx.portName user)
        let wire ← ask (s.ctx.device.wireName sink)
        pure (s.debugNote s!"routing arc to {pin} (wire {wire})")
      else pure s
    pass.joinSink net name user sink s

def claimSource (pass : Pass) (net : NetId) (name : String) (s : PassState) :
    Except Halt PassState := do
  match ← ask (s.ctx.sourceWire net) with
  | none => throw (.failed (.noSource name) s)
  | some source =>
    match ← ask (s.ctx.bindWire source net pass.strength) with
    | .error e => throw (.failed (.sourceRefused name e) s)
    | .ok ctx => return { s with ctx, report := { s.report with nets := s.report.nets + 1 } }

/-- Binds a net's source and joins its sinks in order. -/
def routeNet (pass : Pass) (s : PassState) (net : NetId) : Except Halt PassState := do
  let n ← ask (s.ctx.netlist.net net)
  let s ← pass.claimSource net n.name s
  n.users.foldlM (pass.routeArc net n.name) s

end Pass

/-- The cell types whose output O drives a global clock. -/
def clockBufferTypes : List Ident :=
  ["BUFGCTRL", "BUFCE_BUFG_PS", "BUFCE_BUFCE", "BUFGCE_DIV_BUFGCE_DIV"].map Known.ident

namespace PassOutcome

def of : Except Halt PassState → Query PassOutcome
  | .ok s => .ok ⟨.ok s.report, s.ctx, s.log⟩
  | .error (.fault f) => .error f
  | .error (.failed e s) => .ok ⟨.error e, s.ctx, s.log⟩

end PassOutcome

namespace Context

/-- Routes a constant net if there is one of that name. -/
def routeConstant (s : PassState) (name : String) : Except Halt PassState :=
  match s.ctx.netlist.netByName name with
  | none => .ok s
  | some net => Pass.constant.routeNet (s.note 1 s!"routing {name} connections") net

/-- Routes power and ground onto their network. -/
def routeConstants (c : Context) (log : Log) : Query PassOutcome :=
  PassOutcome.of ([Netlist.vccName, Netlist.gndName].foldlM routeConstant { ctx := c, log })

/-- The driver of a net, if it is the output of a clock buffer. -/
def clockDriver? (c : Context) (net : Net) : Query (Option Cell) := do
  match net.driver with
  | none => return none
  | some driver =>
    let cell ← c.netlist.cell driver.cell
    if clockBufferTypes.contains cell.cellType ∧ driver.port = Known.ident "O" then return some cell
    else return none

/-- Routes a net if it is a clock whose buffer is placed. -/
def routeClock (s : PassState) (net : NetId) : Except Halt PassState := do
  let n ← PassState.ask (s.ctx.netlist.net net)
  match ← PassState.ask (s.ctx.clockDriver? n) with
  | none => return s
  | some cell =>
    if cell.bel.isNone then
      return (s.emit {
        severity := .warning, code := ⟨.routing, 4⟩
        message := s!"clock buffer '{cell.name}' is not placed"
        notes := [s!"clock '{n.name}' is left to the general router"] }).leave n.users.length
    else Pass.clock.routeNet (s.note 3 s!"routing clock '{n.name}'") net

/-- Routes the nets of the clock buffers, by name. -/
def routeClocks (c : Context) (log : Log) : Query PassOutcome :=
  let s : PassState := { ctx := c, log }
  PassOutcome.of (c.netlist.netsByName.foldlM routeClock (s.note 2 "routing global clocks"))

end Context
end Interconnect
