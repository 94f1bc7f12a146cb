import Interconnect.Chip.Record
import Interconnect.Ident.Known
/-!
# Building chip records

A builder grows a record step by step. Names are registered as they come, so identifiers number the
names behind the known ones in order of first use. A step that points beyond a table is a fault;
whether the finished record is accepted is another question.
-/
namespace Interconnect

structure ChipBuilder where
  name : String
  width : Nat
  height : Nat
  ids : IdentTable
  tileTypes : Array TileType
  tiles : Array Tile
  nodes : Array Node
  /-- The node that last joined a wire of a tile. -/
  nodeOf : Std.ExtTreeMap TileWire Nat
  timing : Option TimingData

inductive BuildStep where
  | ident (name : String)
  | tileType (name : String)
  | wire (tt : Nat) (name intent : String)
  | wireSite (tt wire site : Nat)
  | pip (tt src dst : Nat)
  | sitePip (tt src dst site : Nat) (bel : String)
  | bel (tt : Nat) (name belType : String) (z : Nat) (site : Option Nat)
  | belPin (tt bel : Nat) (port : String) (wire : Nat) (dir : PinDir)
  | belRouting (tt bel : Nat)
  | setTile (x y : Nat) (name : String) (tt : Nat)
  | site (tile : Nat) (name siteType pin : String) (interXY : Option (Nat × Nat))
  | node (intent : String) (members : List TileWire)
  | timingInstance (tt : Nat)
  | belTiming (tt bel inst : Nat)
  | cellDelay (tt inst : Nat) (variant fromPort toPort : String) (delay : Int)
  deriving DecidableEq, Repr

def alter {α : Type} (table : Array α) (index : Nat) (change : α → α) : Query (Array α) := do
  let entry ← fetch table index
  return table.setIfInBounds index (change entry)

namespace ChipBuilder

/-- A grid of empty tiles, all of a type without bels, wires and pips. -/
def start (name : String) (width height : Nat) : ChipBuilder :=
  let (null, ids) := Known.table.intern "NULL"
  let tile (x y : Nat) : Tile := ⟨s!"NULL_X{x}Y{y}", 0, #[], #[]⟩
  { name, width, height, ids
    tileTypes := #[{ typeName := null }]
    tiles := ((List.range height).flatMap fun y => (List.range width).map fun x => tile x y).toArray
    nodes := #[]
    nodeOf := ∅
    timing := none }

def ident (b : ChipBuilder) (name : String) : Ident × ChipBuilder :=
  let (id, ids) := b.ids.intern name
  (id, { b with ids })

def alterType (b : ChipBuilder) (tt : Nat) (change : TileType → TileType) : Query ChipBuilder := do
  return { b with tileTypes := ← alter b.tileTypes tt change }

def addTileType (b : ChipBuilder) (name : String) : Nat × ChipBuilder :=
  let (typeName, b) := b.ident name
  (b.tileTypes.size, { b with tileTypes := b.tileTypes.push { typeName } })

def addWire (b : ChipBuilder) (tt : Nat) (name intent : String) : Query (Nat × ChipBuilder) := do
  let (name, b) := b.ident name
  let (intent, b) := b.ident intent
  let ty ← fetch b.tileTypes tt
  let b ← b.alterType tt fun ty =>
    { ty with wires := ty.wires.push ⟨name, intent, none, #[], #[], #[]⟩ }
  return (ty.wires.size, b)

/-- Marks a wire as internal to a site. -/
def setWireSite (b : ChipBuilder) (tt wire site : Nat) : Query ChipBuilder := do
  let ty ← fetch b.tileTypes tt
  let wires ← alter ty.wires wire fun w => { w with site := some site }
  b.alterType tt fun ty => { ty with wires }

/-- Adds a pip and lists it at both of its wires. -/
def addPip (b : ChipBuilder) (tt : Nat) (pip : Pip) : Query (Nat × ChipBuilder) := do
  let ty ← fetch b.tileTypes tt
  let index := ty.pips.size
  let wires ← alter ty.wires pip.src fun w => { w with downhill := w.downhill.push index }
  let wires ← alter wires pip.dst fun w => { w with uphill := w.uphill.push index }
  let b ← b.alterType tt fun ty => { ty with wires, pips := ty.pips.push pip }
  return (index, b)

def addBel (b : ChipBuilder) (tt : Nat) (name belType : String) (z : Nat) (site : Option Nat) :
    Query (Nat × ChipBuilder) := do
  let (name, b) := b.ident name
  let (belType, b) := b.ident belType
  let ty ← fetch b.tileTypes tt
  let b ← b.alterType tt fun ty =>
    { ty with bels := ty.bels.push ⟨name, belType, z, site, false, #[], none⟩ }
  return (ty.bels.size, b)

/-- Attaches a bel pin to a wire and lists it at both. -/
def addBelPin (b : ChipBuilder) (tt bel : Nat) (port : String) (wire : Nat) (dir : PinDir) :
    Query ChipBuilder := do
  let (port, b) := b.ident port
  let ty ← fetch b.tileTypes tt
  let bels ← alter ty.bels bel fun x => { x with pins := x.pins.push ⟨port, wire, dir⟩ }
  let wires ← alter ty.wires wire fun w => { w with belPins := w.belPins.push ⟨bel, port⟩ }
  b.alterType tt fun ty => { ty with bels, wires }

def alterBel (b : ChipBuilder) (tt bel : Nat) (change : Bel → Bel) : Query ChipBuilder := do
  let ty ← fetch b.tileTypes tt
  let bels ← alter ty.bels bel change
  b.alterType tt fun ty => { ty with bels }

/-- Names the tile at a grid position and gives it a type. -/
def setTile (b : ChipBuilder) (x y : Nat) (name : String) (tt : Nat) :
    Query (Nat × ChipBuilder) := do
  let index := y * b.width + x
  let tiles ← alter b.tiles index fun t => { t with name, tileType := tt }
  return (index, { b with tiles })

def addSite (b : ChipBuilder) (tile : Nat) (name siteType pin : String)
    (interXY : Option (Nat × Nat)) : Query (Nat × ChipBuilder) := do
  let t ← fetch b.tiles tile
  let site : Site := ⟨name, siteType, pin, (0, t.sites.size), interXY⟩
  let tiles ← alter b.tiles tile fun t => { t with sites := t.sites.push site }
  return (t.sites.size, { b with tiles })

/-- Joins wires of tiles into a node. A wire joined before leaves its former node's map. -/
def addNode (b : ChipBuilder) (intent : String) (members : List TileWire) : Nat × ChipBuilder :=
  let (intent, b) := b.ident intent
  let index := b.nodes.size
  (index, { b with
    nodes := b.nodes.push ⟨intent, members.toArray⟩
    nodeOf := members.foldl (fun m w => m.insert w index) b.nodeOf })

/-- Adds a timing instance; the first one of a tile type opens its timing table. -/
def addTimingInstance (b : ChipBuilder) (tt : Nat) : Query (Nat × ChipBuilder) := do
  let tables := match b.timing with
    | some t => t.tables
    | none => #[]
  let ty ← fetch b.tileTypes tt
  let (index, tables) := match ty.timingIndex with
    | some i => (i, tables)
    | none => (tables.size, tables.push ⟨#[]⟩)
  let table ← fetch tables index
  let tables ← alter tables index fun t => ⟨t.instances.push ⟨#[]⟩⟩
  let b ← b.alterType tt fun ty => { ty with timingIndex := some index }
  return (table.instances.size, { b with timing := some ⟨tables⟩ })

/-- The delays of a cell variant with one arc more, behind those of the variants seen before. -/
def addArc (inst : InstanceTiming) (variant : Ident) (arc : ArcDelay) : InstanceTiming :=
  match inst.cellTypes.findIdx? (·.variant = variant) with
  | some i => ⟨inst.cellTypes.modify i fun c => { c with delays := c.delays.push arc }⟩
  | none => ⟨inst.cellTypes.push ⟨variant, #[arc]⟩⟩

/-- Records a delay; without a timing table of the tile type it only registers the names. -/
def addCellDelay (b : ChipBuilder) (tt inst : Nat) (variant fromPort toPort : String)
    (delay : Int) : Query ChipBuilder := do
  let (variant, b) := b.ident variant
  let (fromPort, b) := b.ident fromPort
  let (toPort, b) := b.ident toPort
  let ty ← fetch b.tileTypes tt
  match ty.timingIndex, b.timing with
  | some index, some timing =>
    let table ← fetch timing.tables index
    let instances ← alter table.instances inst fun i =>
      addArc i variant ⟨fromPort, toPort, delay, delay⟩
    let tables ← alter timing.tables index fun _ => ⟨instances⟩
    return { b with timing := some ⟨tables⟩ }
  | _, _ => return b

/-- A step, and the index that it hands out, if any. -/
def step (b : ChipBuilder) : BuildStep → Query (Option Nat × ChipBuilder)
  | .ident name => let (i, b) := b.ident name; return (some i, b)
  | .tileType name => let (i, b) := b.addTileType name; return (some i, b)
  | .wire tt name intent => return (← b.addWire tt name intent).map some id
  | .wireSite tt wire site => return (none, ← b.setWireSite tt wire site)
  | .pip tt src dst => return (← b.addPip tt ⟨src, dst, none, none, .tile, none⟩).map some id
  | .sitePip tt src dst site bel => do
    let (bel, b) := b.ident bel
    return (← b.addPip tt ⟨src, dst, some site, some bel, .siteInternal, none⟩).map some id
  | .bel tt name belType z site => return (← b.addBel tt name belType z site).map some id
  | .belPin tt bel port wire dir => return (none, ← b.addBelPin tt bel port wire dir)
  | .belRouting tt bel => return (none, ← b.alterBel tt bel fun x => { x with isRouting := true })
  | .setTile x y name tt => return (← b.setTile x y name tt).map some id
  | .site tile name siteType pin xy => return (← b.addSite tile name siteType pin xy).map some id
  | .node intent members => let (i, b) := b.addNode intent members; return (some i, b)
  | .timingInstance tt => return (← b.addTimingInstance tt).map some id
  | .belTiming tt bel inst =>
    return (none, ← b.alterBel tt bel fun x => { x with timingInst := some inst })
  | .cellDelay tt inst variant fromPort toPort delay =>
    return (none, ← b.addCellDelay tt inst variant fromPort toPort delay)

/-- All steps in order, and what each of them handed out. -/
def run (b : ChipBuilder) : List BuildStep → Query (List (Option Nat) × ChipBuilder)
  | [] => return ([], b)
  | s :: steps => do
    let (out, b) ← b.step s
    let (outs, b) ← b.run steps
    return (out :: outs, b)

/-- Variants in order, and the delays of each by target and then by source. -/
def sortTiming (inst : InstanceTiming) : InstanceTiming :=
  let byPorts (a b : ArcDelay) : Bool :=
    decide (a.toPort < b.toPort ∨ a.toPort = b.toPort ∧ a.fromPort ≤ b.fromPort)
  let cells := inst.cellTypes.toList.mergeSort fun a b => decide (a.variant ≤ b.variant)
  ⟨(cells.map fun c => { c with delays := (c.delays.toList.mergeSort byPorts).toArray }).toArray⟩

/-- The record of everything added. -/
def finish (b : ChipBuilder) : Query ChipRecord := do
  let tiles ← b.tiles.toList.zipIdx.mapM fun (tile, t) => do
    let ty ← fetch b.tileTypes tile.tileType
    let wires := (List.range ty.wires.size).map fun w => b.nodeOf[(⟨t, w⟩ : TileWire)]?
    return { tile with wireToNode := wires.toArray }
  let timing := b.timing.map fun t =>
    ⟨t.tables.map fun table => ⟨table.instances.map sortTiming⟩⟩
  return { name := b.name, generator := "fabric_chipdb 0.1.0", width := b.width, height := b.height
           knownIdCount := Known.count, extraIds := b.ids.names.extract Known.count b.ids.size
           tileTypes := b.tileTypes, tiles := tiles.toArray, nodes := b.nodes, timing }

end ChipBuilder

/-- The record that the steps build on an empty grid, and what each of them handed out. -/
def ChipRecord.build (name : String) (width height : Nat) (steps : List BuildStep) :
    Query (List (Option Nat) × ChipRecord) := do
  let (outs, b) ← (ChipBuilder.start name width height).run steps
  return (outs, ← b.finish)

end Interconnect
