import Interconnect.Grid
import Interconnect.Ident.Table
/-!
# Chip records

The tables that describe one chip. Tiles of a kind share a tile type, which lists the bels, wires
and pips that each of them has; a tile adds its name, its sites and the nodes that its wires join.
Every reference between tables is an index, and every name but those of tiles and sites is an
identifier.
-/
namespace Interconnect

/-- The direction of a pin, seen from its bel or cell. -/
inductive PinDir where
  | input
  | output
  | inout
  deriving DecidableEq, Repr

inductive PipKind where
  | tile
  | siteInternal
  | siteEntry
  | siteExit
  deriving DecidableEq, Repr

structure BelPin where
  port : Ident
  wire : Nat
  dir : PinDir
  deriving DecidableEq, Repr

structure Bel where
  name : Ident
  belType : Ident
  /-- Tells apart the bels of one tile. -/
  z : Nat
  site : Option Nat
  /-- Whether the bel is part of the routing and takes no cell. -/
  isRouting : Bool
  pins : Array BelPin
  /-- The bel's instance in the timing table of its tile type. -/
  timingInst : Option Nat
  deriving DecidableEq, Repr

/-- A bel pin, named from the wire it is attached to. -/
structure BelPinRef where
  bel : Nat
  port : Ident
  deriving DecidableEq, Repr

structure Wire where
  name : Ident
  intent : Ident
  site : Option Nat
  /-- The pips that drive the wire. -/
  uphill : Array Nat
  /-- The pips that the wire drives. -/
  downhill : Array Nat
  belPins : Array BelPinRef
  deriving DecidableEq, Repr

structure Pip where
  src : Nat
  dst : Nat
  site : Option Nat
  bel : Option Ident
  kind : PipKind
  siteVariant : Option Nat
  deriving DecidableEq, Repr

/-- What all tiles of a kind have in common. -/
structure TileType where
  typeName : Ident
  bels : Array Bel := #[]
  wires : Array Wire := #[]
  pips : Array Pip := #[]
  /-- The timing table of the tile type's bels. -/
  timingIndex : Option Nat := none
  deriving DecidableEq, Repr

structure Site where
  name : String
  siteType : String
  /-- The package pin that the site serves, or nothing. -/
  pin : String
  siteXY : Int × Int
  /-- Where the site meets the interconnect, if not in its own tile. -/
  interXY : Option (Nat × Nat)
  deriving DecidableEq, Repr

structure Tile where
  name : String
  tileType : Nat
  sites : Array Site
  /-- The node of each wire of the tile's type. -/
  wireToNode : Array (Option Nat)
  deriving DecidableEq, Repr

/-- Wires of several tiles that are one. The first of them stands for the node. -/
structure Node where
  intent : Ident
  tileWires : Array TileWire
  deriving DecidableEq, Repr

structure ArcDelay where
  fromPort : Ident
  toPort : Ident
  minDelay : Int
  maxDelay : Int
  deriving DecidableEq, Repr

/-- The delays of one variant of a cell, by target and then by source. -/
structure CellTiming where
  variant : Ident
  delays : Array ArcDelay
  deriving DecidableEq, Repr

/-- The variants that a bel's cell may take, by variant. -/
structure InstanceTiming where
  cellTypes : Array CellTiming
  deriving DecidableEq, Repr

structure TimingTable where
  instances : Array InstanceTiming
  deriving DecidableEq, Repr

structure TimingData where
  tables : Array TimingTable
  deriving DecidableEq, Repr

structure ChipRecord where
  name : String
  generator : String
  width : Nat
  height : Nat
  /-- How many known identifiers precede the record's own. -/
  knownIdCount : Nat
  extraIds : Array String
  tileTypes : Array TileType
  /-- Tiles row by row. -/
  tiles : Array Tile
  nodes : Array Node
  timing : Option TimingData
  deriving DecidableEq, Repr

end Interconnect
