import Interconnect.Context.Routing
/-!
# Searching uphill

From a sink, a breadth-first search follows pips against their direction until it meets a wire that
the net holds already. The pips on the way back down are the path to bind.
-/
namespace Interconnect

/-- The two kinds of nets that are routed on resources of their own. -/
inductive Pass where
  /-- Power and ground. -/
  | constant
  /-- Global clocks. -/
  | clock
  deriving DecidableEq, Repr

namespace Pass

def strength : Pass → Strength
  | constant => .strong
  | clock => .locked

/-- Intents of the general interconnect, which clocks stay off. -/
def clockExcludedIntents : List Ident :=
  ["NODE_DOUBLE", "NODE_HLONG", "NODE_HQUAD", "NODE_VLONG", "NODE_VQUAD", "NODE_SINGLE",
   "NODE_CLE_OUTPUT", "NODE_OPTDELAY", "BENTQUAD", "DOUBLE", "HLONG", "HQUAD", "OPTDELAY",
   "SINGLE", "VLONG", "VLONG12", "VQUAD", "PINBOUNCE"].map Known.ident

/-- Whether a route may come from a wire of an intent. -/
def admitsIntent (pass : Pass) (intent : Ident) : Bool :=
  match pass with
  | constant => true
  | clock => !clockExcludedIntents.contains intent

end Pass

structure Frontier where
  /-- The wires met, each with the pip that leads back towards the sink. -/
  trace : Std.ExtTreeMap WireId (Option PipId)
  /-- The wires still to visit. -/
  queue : List WireId

namespace Frontier

def start (sink : WireId) : Frontier :=
  ⟨(∅ : Std.ExtTreeMap WireId (Option PipId)).insert sink none, [sink]⟩

def meet (f : Frontier) (src : WireId) (pip : PipId) : Frontier :=
  ⟨f.trace.insert src (some pip), f.queue ++ [src]⟩

end Frontier

/-- More wires than a device has. -/
def Device.wireBound (d : Device) : Nat :=
  d.record.tiles.foldl (fun n tile => n + tile.wireToNode.size) 0 + d.record.nodes.size + 2

namespace Context

variable (c : Context)

/-- The wire behind a pip, unless it was met before or the net may not use pip or wire. -/
def expandPip (pass : Pass) (net : NetId) (f : Frontier) (pip : PipId) : Query Frontier := do
  if !(← c.isPipFreeFor pip net) then return f
  let src ← c.device.pipSrcWire pip
  if f.trace.contains src then return f
  if !pass.admitsIntent (← c.device.wireIntent src) then return f
  if (c.wireBinding src).heldByOther net then return f
  return f.meet src pip

/-- Visits wires in order until one is held by the net. No wire is met twice, so the number of the
device's wires bounds the visits. -/
def visit (pass : Pass) (net : NetId) : Nat → Frontier → Query (Option (WireId × Frontier))
  | 0, _ => .error .endless
  | fuel + 1, f =>
    match f.queue with
    | [] => .ok none
    | w :: rest =>
      if c.wireNet w = some net then .ok (some (w, f))
      else do
        let pips ← c.device.pipsUphill w
        let f ← pips.foldlM (c.expandPip pass net) { f with queue := rest }
        visit pass net fuel f

/-- The pips from a wire back to the sink. A walk that takes more steps than there are wires in the
trace never ends. -/
def walkBack (met : Std.ExtTreeMap WireId (Option PipId)) : Nat → WireId → Query (List PipId)
  | fuel, w =>
    match met[w]? with
    | some (some pip) =>
      match fuel with
      | 0 => .error .endless
      | fuel + 1 => do
        let next ← c.device.pipDstWire pip
        return pip :: (← walkBack met fuel next)
    | _ => .ok []

/-- The pips from a wire of the net down to a sink, if one can be reached. -/
def searchUphill (pass : Pass) (net : NetId) (sink : WireId) : Query (Option (List PipId)) := do
  match ← c.visit pass net c.device.wireBound (Frontier.start sink) with
  | none => return none
  | some (w, f) => return some (← c.walkBack f.trace f.trace.size w)

end Context
end Interconnect
