import Interconnect.Routing.Dedicated
/-!
# Where sinks join the interconnect

A sink outside the logic tiles is fed through wires of its own. Its location is that of the nearest
wire uphill that belongs to the general interconnect.
-/
namespace Interconnect

def sinkFeedIntents : List Ident :=
  ["NODE_PINFEED", "PSEUDO_VCC", "PSEUDO_GND", "INTENT_DEFAULT", "NODE_DEDICATED", "NODE_OPTDELAY",
   "PINFEED", "INPUT"].map Known.ident

/-- How many wires are visited for a sink. -/
def sinkSearchLimit : Nat := 500

structure SinkSearch where
  /-- The wires met, each with the wire that it was met from. -/
  trace : Std.ExtTreeMap WireId (Option WireId)
  /-- The wires still to visit. -/
  queue : List WireId

namespace SinkSearch

def start (sink : WireId) : SinkSearch :=
  ⟨(∅ : Std.ExtTreeMap WireId (Option WireId)).insert sink none, [sink]⟩

def meet (s : SinkSearch) (src w : WireId) : SinkSearch :=
  ⟨s.trace.insert src (some w), s.queue ++ [src]⟩

/-- The wires from behind a wire down to the sink. A walk that takes more steps than wires were met
never ends. -/
def trailFrom (met : Std.ExtTreeMap WireId (Option WireId)) : Nat → WireId → Query (List WireId)
  | fuel, w =>
    match met[w]? with
    | some (some next) =>
      match fuel with
      | 0 => .error .endless
      | fuel + 1 => do return next :: (← trailFrom met fuel next)
    | _ => .ok []

end SinkSearch

namespace Device

variable (d : Device)

/-- Whether a wire belongs neither to a site nor to a sink's feed. -/
def isExit (w : WireId) : Query Bool := do
  if (← d.wireSite w).isSome then return false
  return !sinkFeedIntents.contains (← d.wireIntent w)

/-- The wire behind a pip, unless it was met before. -/
def meetUphill (w : WireId) (s : SinkSearch) (pip : PipId) : Query SinkSearch := do
  let src ← d.pipSrcWire pip
  if s.trace.contains src then return s
  return s.meet src w

/-- The first exit among a number of wires, and the wires from behind it down to the sink. -/
def visitUphill : Nat → SinkSearch → Query (Option (WireId × List WireId))
  | 0, _ => .ok none
  | limit + 1, s =>
    match s.queue with
    | [] => .ok none
    | w :: rest => do
      if ← d.isExit w then return some (w, ← SinkSearch.trailFrom s.trace s.trace.size w)
      else
        let pips ← d.pipsUphill w
        visitUphill limit (← pips.foldlM (d.meetUphill w) { s with queue := rest })

/-- The nearest exit of a sink, and the wires from behind it down to the sink. -/
def locateSink (sink : WireId) : Query (Option (WireId × List WireId)) :=
  d.visitUphill sinkSearchLimit (SinkSearch.start sink)

end Device

namespace Context

/-- Records a location for each wire that has none yet. -/
def setSinkLocations (c : Context) (wires : List WireId) (xy : Int × Int) : Context :=
  wires.foldl (fun c w => (c.setSinkLocation w xy).2) c

/-- The sink wire of a user that is placed outside the logic tiles. -/
def externalSink? (c : Context) (user : PortRef) : Query (Option WireId) := do
  match (← c.netlist.cell user.cell).bel with
  | none => return none
  | some b => if ← c.device.isLogicTile b then return none else c.portWire user

/-- A search for sink locations under way, and how many sinks it has located. -/
structure SinkState where
  ctx : Context
  log : Log
  located : Nat := 0

/-- Locates the sink of one user. -/
def locateUser (s : SinkState) (user : PortRef) : Query SinkState := do
  match ← s.ctx.externalSink? user with
  | none => return s
  | some sink =>
    if (s.ctx.sinkLocation sink).isSome then return s
    match ← s.ctx.device.locateSink sink with
    | none => return s
    | some (exit, trail) =>
      let xy ← s.ctx.device.tileXY (← s.ctx.device.wireTile exit)
      let log ← if s.ctx.debug then do
          let message := s!"{← s.ctx.device.wireName sink} <---- {← s.ctx.device.wireName exit}"
          pure (s.log.emit { severity := .note, code := ⟨.routing, 5⟩, message })
        else pure s.log
      return ⟨s.ctx.setSinkLocations (sink :: trail) xy, log, s.located + 1⟩

def locateNet (s : SinkState) (net : NetId) : Query SinkState := do
  (← s.ctx.netlist.net net).users.foldlM locateUser s

/-- Locates the sinks of all nets, by name. -/
def findSinkLocations (c : Context) (log : Log) : Query SinkState := do
  let s ← c.netlist.netsByName.foldlM locateNet { ctx := c, log }
  let message := s!"located {s.located} non-logic sinks"
  return { s with log := s.log.emit { severity := .note, code := ⟨.routing, 8⟩, message } }

end Context
end Interconnect
