import Interconnect.Chip.Error
import Interconnect.Chip.Record
import Interconnect.Family
/-!
# Accepted chip records

A record is accepted when every reference between its tables is in range. The first reference that
is not, in the order of the tables, is what the refusal names.
-/
namespace Interconnect

namespace ChipRecord

/-- Number of identifiers that the record may use. -/
def idLimit (r : ChipRecord) : Nat := Known.count + r.extraIds.size

def timingTables (r : ChipRecord) : Array TimingTable :=
  match r.timing with
  | some t => t.tables
  | none => #[]

def instanceCount (r : ChipRecord) (tt : TileType) : Nat :=
  match tt.timingIndex.bind (r.timingTables[·]?) with
  | some table => table.instances.size
  | none => 0

end ChipRecord

namespace Check

/-- Nothing, or why the record is refused. -/
abbrev Result := Except Malformation Unit

def require (holds : Bool) (otherwise : Malformation) : Result :=
  if holds then .ok () else .error otherwise

/-- A check of every entry of a table, with its index. -/
def each {α : Type} (table : Array α) (check : Nat → α → Result) : Result :=
  table.toList.zipIdx.forM fun (a, i) => check i a

def none {α : Type} (list : List α) (bad : α → Bool) (otherwise : α → Malformation) : Result :=
  match list.find? bad with
  | some a => .error (otherwise a)
  | Option.none => .ok ()

def ident (r : ChipRecord) (user : String) (id : Ident) : Result :=
  require (decide (id < r.idLimit)) (.identifier user id r.idLimit)

def bel (r : ChipRecord) (ti : Nat) (tt : TileType) (bi : Nat) (b : Bel) : Result := do
  let user := s!"bel {bi} of tile type {ti}"
  ident r user b.name
  ident r user b.belType
  b.pins.toList.forM fun pin => do
    ident r user pin.port
    require (decide (pin.wire < tt.wires.size)) (.pinWire user pin.wire)
  none b.timingInst.toList (fun i => decide (r.instanceCount tt ≤ i)) (.timingInstance user)

def wire (r : ChipRecord) (ti : Nat) (tt : TileType) (wi : Nat) (w : Wire) : Result := do
  let user := s!"wire {wi} of tile type {ti}"
  ident r user w.name
  ident r user w.intent
  none (w.uphill.toList ++ w.downhill.toList) (fun p => decide (tt.pips.size ≤ p))
    (.pipReference user)
  none w.belPins.toList (fun p => decide (tt.bels.size ≤ p.bel)) (fun p => .belReference user p.bel)

def pip (r : ChipRecord) (ti : Nat) (tt : TileType) (pi : Nat) (p : Pip) : Result := do
  require (decide (p.src < tt.wires.size ∧ p.dst < tt.wires.size))
    (.pipWires pi ti p.src p.dst tt.wires.size)
  p.bel.toList.forM (ident r s!"pip {pi} of tile type {ti}")

def tileType (r : ChipRecord) (ti : Nat) (tt : TileType) : Result := do
  ident r s!"tile type {ti}" tt.typeName
  none tt.timingIndex.toList (fun i => decide (r.timingTables.size ≤ i))
    (fun i => .timingTable ti i r.timingTables.size)
  each tt.bels (bel r ti tt)
  each tt.wires (wire r ti tt)
  each tt.pips (pip r ti tt)

def sitesOf (tt : TileType) : List Nat :=
  tt.bels.toList.filterMap (·.site) ++ tt.wires.toList.filterMap (·.site) ++
    tt.pips.toList.filterMap (·.site)

def tile (r : ChipRecord) (t : Nat) (tile : Tile) : Result :=
  match r.tileTypes[tile.tileType]? with
  | Option.none => .error (.tileType t tile.tileType)
  | some tt => do
    require (decide (tile.wireToNode.size = tt.wires.size))
      (.wireMap t tile.wireToNode.size tt.wires.size)
    none (tile.wireToNode.toList.filterMap id) (fun n => decide (r.nodes.size ≤ n))
      (.nodeReference t)
    none (sitesOf tt) (fun s => decide (tile.sites.size ≤ s)) (.siteReference t tile.sites.size)

def hasWire (r : ChipRecord) (w : TileWire) : Bool :=
  match r.tiles[w.tile]? with
  | Option.none => false
  | some tile => match r.tileTypes[tile.tileType]? with
    | Option.none => false
    | some tt => decide (w.index < tt.wires.size)

def node (r : ChipRecord) (n : Nat) (node : Node) : Result := do
  ident r s!"node {n}" node.intent
  require (!node.tileWires.isEmpty) (.emptyNode n)
  none node.tileWires.toList (fun w => !hasWire r w) (fun w => .nodeMember n w.tile w.index)

def record (r : ChipRecord) : Except ChipError Unit := do
  unless r.knownIdCount = Known.count do throw (.knownIdCount r.knownIdCount)
  (do require (decide (r.tiles.size = r.width * r.height))
        (.tileCount r.tiles.size r.width r.height)
      each r.tileTypes (tileType r)
      each r.tiles (tile r)
      each r.nodes (node r) : Result).mapError .malformed

end Check

/-- Every reference of the record is in range. -/
def ChipRecord.Accepted (r : ChipRecord) : Prop := Check.record r = .ok ()

/-- An accepted record and the hash of the payload that it came from. -/
structure ChipDatabase where
  record : ChipRecord
  checksum : ContentHash
  accepted : record.Accepted

namespace ChipDatabase

/-- Accepts a record, or says why not. -/
def ofRecord (r : ChipRecord) (checksum : ContentHash) : Except ChipError ChipDatabase :=
  match h : Check.record r with
  | .ok () => .ok ⟨r, checksum, h⟩
  | .error e => .error e

def family (db : ChipDatabase) : Family := Family.ofPartName db.record.name

/-- Registers names that must all be new, in order. -/
def register (t : IdentTable) : List String → Except ChipError IdentTable
  | [] => .ok t
  | name :: names =>
    match t.find? name with
    | some i => .error (.duplicateId name t.size i)
    | none => register (t.intern name).2 names

/-- The known identifiers and behind them the record's own. -/
def identTable (db : ChipDatabase) : Except ChipError IdentTable :=
  register IdentTable.empty (Known.names ++ db.record.extraIds.toList)

end ChipDatabase
end Interconnect
