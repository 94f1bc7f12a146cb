import Interconnect.Context.Basic
/-!
# Binding wires and pips

A net takes a wire, or a pip together with the wire that it drives. What a weaker net held there is
released first. A refused request changes nothing.
-/
namespace Interconnect.Context

variable (c : Context)

def drivingPip (net : NetId) (w : WireId) : Option PipId :=
  (c.netlist.nets[net]?).bind fun n => (n.wires[w]?).bind (·.pip)

/-- The pips that are held once one of them, if any, is released. -/
def erasePip (holds : Std.ExtTreeMap PipId Hold) : Option PipId → Std.ExtTreeMap PipId Hold
  | some p => holds.erase p
  | none => holds

/-- Takes a wire out of its holder's routing, with the pip that drives it there. -/
def releaseWire (w : WireId) : Context :=
  match c.wireBinding w with
  | none => c
  | some held =>
    { c with
      wireHolds := c.wireHolds.erase w
      pipHolds := erasePip c.pipHolds (c.drivingPip held.net w)
      netlist := c.netlist.modifyNet held.net fun n => { n with wires := n.wires.erase w } }

/-- Takes a pip from its holder, with the wire that it drives in the holder's routing. -/
def releasePip (p : PipId) : Query Context :=
  match c.pipBinding p with
  | none => .ok c
  | some held => do
    let dst ← c.device.pipDstWire p
    let freed := { c with pipHolds := c.pipHolds.erase p }
    if c.drivingPip held.net dst = some p then
      return { freed with
        wireHolds := c.wireHolds.erase dst
        netlist := c.netlist.modifyNet held.net fun n => { n with wires := n.wires.erase dst } }
    else return freed

/-- Enters a wire that nobody else holds into a net's routing. -/
def claimWire (w : WireId) (net : NetId) (strength : Strength) (pip : Option PipId) : Context :=
  let hold := (c.wireBinding w).rebound net strength
  { c with
    wireHolds := c.wireHolds.insert w hold
    netlist := c.netlist.modifyNet net fun n =>
      { n with wires := n.wires.insert w ⟨pip, hold.strength⟩ } }

/-- Gives a wire to a net. A wire that the net holds already keeps the pip that drives it. -/
def bindWire (w : WireId) (net : NetId) (strength : Strength) : Query (Except BindError Context) :=
  match (c.wireBinding w).conflict? net strength with
  | some holder => .ok (.error (.wireConflict w holder))
  | none => do
    let _ ← c.netlist.net net
    let c := if (c.wireBinding w).heldByOther net then c.releaseWire w else c
    return .ok (c.claimWire w net strength (c.drivingPip net w))

/-- Gives a pip and the wire that it drives to a net. Another pip that drove the wire before is
released. -/
def bindPip (p : PipId) (net : NetId) (strength : Strength) : Query (Except BindError Context) := do
  if ← c.device.isBlacklisted p then return .error (.blacklisted p)
  let dst ← c.device.pipDstWire p
  match (c.pipBinding p).conflict? net strength, (c.wireBinding dst).conflict? net strength with
  | some holder, _ => return .error (.pipConflict p holder)
  | none, some holder => return .error (.wireConflict dst holder)
  | none, none =>
    let _ ← c.netlist.net net
    let c ← if (c.pipBinding p).heldByOther net then c.releasePip p else pure c
    let c := if (c.wireBinding dst).heldByOther net then c.releaseWire dst else c
    let c := { c with pipHolds := erasePip c.pipHolds ((c.drivingPip net dst).filter (· ≠ p)) }
    let c := { c with pipHolds := c.pipHolds.insert p ((c.pipBinding p).rebound net strength) }
    return .ok (c.claimWire dst net strength (some p))

/-- Releases a wire and the pip that drives it. A locked wire needs force. -/
def unbindWire (w : WireId) (force : Bool) : Query (Except BindError Context) := do
  match c.wireBinding w with
  | none => return .error (.notBound (← c.device.wireName w))
  | some held =>
    if held.strength = .locked ∧ !force then return .error (.locked (← c.device.wireName w))
    return .ok (c.releaseWire w)

/-- Releases a pip and the wire that it drives. A locked pip needs force. -/
def unbindPip (p : PipId) (force : Bool) : Query (Except BindError Context) := do
  match c.pipBinding p with
  | none => return .error (.notBound (← c.device.pipName p))
  | some held =>
    if held.strength = .locked ∧ !force then return .error (.locked (← c.device.pipName p))
    return .ok (← c.releasePip p)

end Interconnect.Context
