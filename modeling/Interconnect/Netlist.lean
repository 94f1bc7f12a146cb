import Interconnect.Binding
import Interconnect.Chip.Record
/-!
# Netlists

Cells with ports, and nets that connect them. A net has at most one driving port, the ports that use
it, and the wires that its routing holds, each with the pip that drives it. A failing change leaves
the netlist as it was.
-/
namespace Interconnect

structure PortRef where
  cell : CellId
  port : Ident
  deriving DecidableEq, Repr

/-- A declared port and the net it is connected to. -/
structure Port where
  dir : PinDir
  net : Option NetId
  deriving DecidableEq, Repr

structure Cell where
  name : String
  cellType : Ident
  bel : Option BelId := none
  /-- Strength of the placement. -/
  strength : Strength := .weak
  ports : Std.ExtTreeMap Ident Port := ∅
  /-- The bel pin of a port, where that is not the port's own name. -/
  pinMap : Std.ExtTreeMap Ident Ident := ∅
  attrs : Std.ExtTreeMap String String := ∅

structure Net where
  name : String
  driver : Option PortRef := none
  users : List PortRef := []
  /-- The wires of the net's routing. -/
  wires : Std.ExtTreeMap WireId RouteEntry := ∅

inductive NetlistError where
  | duplicateCell (name : String)
  | noSuchPort (cell : String)
  | portConnected (cell : String)
  | secondDriver (net : String)
  deriving DecidableEq, Repr

def NetlistError.message : NetlistError → String
  | duplicateCell name => s!"internal error: duplicate cell '{name}'"
  | noSuchPort cell => s!"internal error: cell '{cell}' has no such port"
  | portConnected cell => s!"internal error: port of cell '{cell}' is already connected"
  | secondDriver net => s!"internal error: net '{net}' already has a driver"

namespace Cell

/-- The bel pin that a port is mapped to. -/
def belPin (c : Cell) (port : Ident) : Ident := (c.pinMap[port]?).getD port

def portNet (c : Cell) (port : Ident) : Option NetId := (c.ports[port]?).bind (·.net)

end Cell

structure Netlist where
  cells : Array Cell := #[]
  nets : Array Net := #[]
  cellIndex : Std.ExtTreeMap String CellId := ∅
  netIndex : Std.ExtTreeMap String NetId := ∅

namespace Netlist

def vccName : String := "$PACKER_VCC_NET"

def gndName : String := "$PACKER_GND_NET"

variable (n : Netlist)

def cell (c : CellId) : Query Cell := fetch n.cells c

def net (i : NetId) : Query Net := fetch n.nets i

def cellByName (name : String) : Option CellId := n.cellIndex[name]?

def netByName (name : String) : Option NetId := n.netIndex[name]?

def modifyCell (c : CellId) (change : Cell → Cell) : Netlist :=
  { n with cells := n.cells.modify c change }

def modifyNet (i : NetId) (change : Net → Net) : Netlist :=
  { n with nets := n.nets.modify i change }

/-- Adds an unplaced cell without ports. Names of cells are unique. -/
def addCell (name : String) (cellType : Ident) : Except NetlistError (CellId × Netlist) :=
  if n.cellIndex.contains name then .error (.duplicateCell name)
  else
    let id := n.cells.size
    .ok (id, { n with
      cells := n.cells.push { name, cellType }
      cellIndex := n.cellIndex.insert name id })

/-- Adds an empty net. A name in use then stands for the new net. -/
def addNet (name : String) : NetId × Netlist :=
  let id := n.nets.size
  (id, { n with nets := n.nets.push { name }, netIndex := n.netIndex.insert name id })

/-- Declares an unconnected port. -/
def addPort (c : CellId) (port : Ident) (dir : PinDir) : Query Netlist := do
  let _ ← n.cell c
  return n.modifyCell c fun cell => { cell with ports := cell.ports.insert port ⟨dir, none⟩ }

/-- Connects a declared port: an output drives the net, any other port uses it. -/
def connect (c : CellId) (port : Ident) (i : NetId) : Query (Except NetlistError Netlist) := do
  let cell ← n.cell c
  match cell.ports[port]? with
  | none => return .error (.noSuchPort cell.name)
  | some info =>
    if info.net.isSome then return .error (.portConnected cell.name)
    let net ← n.net i
    if info.dir = .output ∧ net.driver.isSome then return .error (.secondDriver net.name)
    let n := n.modifyCell c fun cell =>
      { cell with ports := cell.ports.insert port ⟨info.dir, some i⟩ }
    let ref : PortRef := ⟨c, port⟩
    return .ok (n.modifyNet i fun net =>
      if info.dir = .output then { net with driver := some ref }
      else { net with users := net.users ++ [ref] })

/-- All nets by name; nets of one name in order of their numbers. -/
def netsByName : List NetId :=
  let named := n.nets.toList.zipIdx.map fun (net, i) => (net.name, i)
  (named.mergeSort fun a b => decide (a.1 ≤ b.1)).map (·.2)

end Netlist

/-- A step that grows a netlist. -/
inductive NetlistEdit where
  | cell (name : String) (cellType : Ident)
  | net (name : String)
  | port (cell : CellId) (port : Ident) (dir : PinDir)
  | connect (cell : CellId) (port : Ident) (net : NetId)
  deriving DecidableEq, Repr

/-- The netlist after a step, whether the step failed or not. -/
def Netlist.edit (n : Netlist) : NetlistEdit → Query Netlist
  | .cell name ty => match n.addCell name ty with
    | .ok (_, n) => .ok n
    | .error _ => .ok n
  | .net name => .ok (n.addNet name).2
  | .port c p dir => n.addPort c p dir
  | .connect c p i => do
    match ← n.connect c p i with
    | .ok n => return n
    | .error _ => return n

end Interconnect
