import Interconnect.Device.Names
import Interconnect.Netlist
import Interconnect.Settings.Basic
import Interconnect.Text.Quoted
/-!
# Contexts

A context is a device, a netlist, and what binds them: who holds each wire and pip, which cell sits
on each bel, and where sinks were found. Wires, pips and bels that nobody holds have no entry.
-/
namespace Interconnect

structure Context where
  device : Device
  netlist : Netlist := {}
  settings : Std.ExtTreeMap String String := ∅
  attrs : Std.ExtTreeMap String String := ∅
  /-- Whether the routing passes report every arc. -/
  debug : Bool := false
  wireHolds : Std.ExtTreeMap WireId Hold := ∅
  pipHolds : Std.ExtTreeMap PipId Hold := ∅
  belCells : Std.ExtTreeMap BelId CellId := ∅
  siteVariants : Std.ExtTreeMap SiteId Nat := ∅
  /-- The grid coordinates where sinks join the interconnect. -/
  sinkLocations : Std.ExtTreeMap WireId (Int × Int) := ∅
  estimator : EstimatorTuning := {}
  ripupPenalty : Int := 250
  /-- The placer of a run whose settings name none. -/
  defaultPlacer : PlacerKind := .sa

namespace Context

variable (c : Context)

/-- Takes over the tuning and the placer of checked settings. -/
def applySettings (s : RunSettings) : Except SettingsError Context := do
  return { c with
    defaultPlacer := ← s.placerKind
    estimator := s.estimator
    ripupPenalty := s.ripupPenalty }

def intern (name : String) : Ident × Context :=
  let (id, device) := c.device.intern name
  (id, { c with device })

def summary : String :=
  let device := s!"Device \x7b chip: {Text.quoted c.device.chipName}, " ++
    s!"family: {c.device.family.tag}, tiles: {c.device.tileCount} \x7d"
  s!"Context \x7b device: {device}, cells: {c.netlist.cells.size}, nets: {c.netlist.nets.size}, " ++
    s!"bound_wires: {c.wireHolds.size}, bound_pips: {c.pipHolds.size} \x7d"

/-! ### Wires and pips -/

def wireBinding (w : WireId) : Binding := c.wireHolds[w]?

def pipBinding (p : PipId) : Binding := c.pipHolds[p]?

def wireNet (w : WireId) : Option NetId := (c.wireBinding w).map (·.net)

def pipNet (p : PipId) : Option NetId := (c.pipBinding p).map (·.net)

def isWireFree (w : WireId) : Bool := (c.wireNet w).isNone

/-- Whether a pip is neither excluded nor held. -/
def isPipFree (p : PipId) : Query Bool := do
  return !(← c.device.isBlacklisted p) && (c.pipNet p).isNone

/-- Whether a pip is not excluded, and free or held by the given net. -/
def isPipFreeFor (p : PipId) (net : NetId) : Query Bool := do
  return !(← c.device.isBlacklisted p) && (c.pipNet p).all (· = net)

/-! ### Bels and sites -/

def belCell (b : BelId) : Query (Option CellId) := do
  let _ ← c.device.bel b
  return c.belCells[b]?

def isBelFree (b : BelId) : Query Bool := do
  return !(← c.device.bel b).isRouting && (← c.belCell b).isNone

def siteVariant (s : SiteId) : Query (Option Nat) := do
  let _ ← c.device.site s
  return c.siteVariants[s]?

def setSiteVariant (s : SiteId) (variant : Option Nat) : Query Context := do
  let _ ← c.device.site s
  return { c with siteVariants := match variant with
    | some v => c.siteVariants.insert s v
    | none => c.siteVariants.erase s }

/-! ### Ends of nets -/

/-- The wire at a placed port. -/
def portWire (port : PortRef) : Query (Option WireId) := do
  let cell ← c.netlist.cell port.cell
  match cell.bel with
  | none => return none
  | some b => c.device.belPinWire b (cell.belPin port.port)

/-- The wire that a net's placed driver drives. -/
def sourceWire (net : NetId) : Query (Option WireId) := do
  match (← c.netlist.net net).driver with
  | none => return none
  | some driver => c.portWire driver

/-! ### Sink locations -/

def sinkLocation (w : WireId) : Option (Int × Int) := c.sinkLocations[w]?

/-- Records where a sink is, unless that is known already. -/
def setSinkLocation (w : WireId) (xy : Int × Int) : Bool × Context :=
  if c.sinkLocations.contains w then (false, c)
  else (true, { c with sinkLocations := c.sinkLocations.insert w xy })

end Context
end Interconnect
