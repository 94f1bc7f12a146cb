import Interconnect.Chip.Database
import Interconnect.Device.Blacklist
/-!
# Devices

A device is an accepted chip record with its identifiers, an index of its names, and its excluded
pips. It answers what the record says about tiles, sites, bels, wires and pips. A wire that belongs
to a node is always handed out as the node, so wires that are electrically one compare equal.
-/
namespace Interconnect

structure Device where
  db : ChipDatabase
  ids : IdentTable
  tileIndex : Std.ExtTreeMap String Nat
  siteIndex : Std.ExtTreeMap String SiteId
  /-- The site that serves a package pin. -/
  pinSites : Std.ExtTreeMap String String
  blacklist : Blacklist

namespace Device

def sitesOf (r : ChipRecord) : List (SiteId × Site) :=
  r.tiles.toList.zipIdx.flatMap fun (tile, t) =>
    tile.sites.toList.zipIdx.map fun (site, s) => (⟨t, s⟩, site)

def isPackagePin (pin : String) : Bool := !pin.isEmpty && !Text.startsWith "." pin

/-- Opens a database: registers its identifiers, indexes its names and finds its excluded pips. A
name that occurs more than once stands for its last place. -/
def ofDatabase (db : ChipDatabase) : Query (Except ChipError Device) :=
  match db.identTable with
  | .error e => .ok (.error e)
  | .ok ids => do
    let sites := sitesOf db.record
    let blacklist ← match db.family with
      | .xc7 => Blacklist.ofRecord ids db.record
      | .ultraScale => .ok Blacklist.empty
    return .ok {
      db, ids, blacklist
      tileIndex := db.record.tiles.toList.zipIdx.foldl (fun m (tile, t) => m.insert tile.name t) ∅
      siteIndex := sites.foldl (fun m (id, site) => m.insert site.name id) ∅
      pinSites := sites.foldl (fun m (_, site) =>
        if isPackagePin site.pin then m.insert site.pin site.name else m) ∅ }

variable (d : Device)

def record : ChipRecord := d.db.record
def chipName : String := d.record.name
def family : Family := d.db.family
def isXc7 : Bool := d.family == .xc7

def width : Int := signed d.record.width

def height : Int := signed d.record.height

/-! ### Identifiers -/

/-- Registers a name. Nothing else about the device changes. -/
def intern (name : String) : Ident × Device :=
  let (id, ids) := d.ids.intern name
  (id, { d with ids })

/-! ### Tiles -/

def tileCount : Nat := d.record.tiles.size

def tile (t : Nat) : Query Tile := fetch d.record.tiles t

def tileType (t : Nat) : Query TileType := do
  fetch d.record.tileTypes (← d.tile t).tileType

def tileXY (t : Nat) : Query (Int × Int) :=
  let w := d.record.width
  if w = 0 then .error .emptyGrid else .ok (signed (t % w), signed (t / w))

def tileAt (x y : Int) : Option Nat :=
  if x < 0 ∨ y < 0 ∨ d.width ≤ x ∨ d.height ≤ y then none else some (y * d.width + x).toNat

def tileName (t : Nat) : Query String := do return (← d.tile t).name

def tileByName (name : String) : Option Nat := d.tileIndex[name]?

def tileTypeName (t : Nat) : Query Ident := do return (← d.tileType t).typeName

def tileTimingIndex (t : Nat) : Query (Option Nat) := do return (← d.tileType t).timingIndex

/-! ### Sites -/

def site (s : SiteId) : Query Site := do fetch (← d.tile s.tile).sites s.index

def siteName (s : SiteId) : Query String := do return (← d.site s).name

def siteByName (name : String) : Option SiteId := d.siteIndex[name]?

/-- Where a site meets the interconnect, if it says so. -/
def siteInterXY (s : SiteId) : Query (Option (Int × Int)) := do
  let tile ← d.tile s.tile
  return (tile.sites[s.index]?).bind fun site => site.interXY.map fun (x, y) => (signed x, signed y)

def packagePinSite (pin : String) : Option String := d.pinSites[pin]?

/-! ### Bels -/

def bel (b : BelId) : Query Bel := do fetch (← d.tileType b.tile).bels b.index

def tileBelCount (t : Nat) : Query Nat := do return (← d.tileType t).bels.size

def tileBels (t : Nat) : Query (List BelId) := do
  return (List.range (← d.tileBelCount t)).map fun i => ⟨t, i⟩

def bels : Query (List BelId) := do
  return (← (List.range d.tileCount).mapM d.tileBels).flatten

/-- The bels of the tile at a grid coordinate; none outside the grid. -/
def belsAt (x y : Int) : Query (List BelId) :=
  match d.tileAt x y with
  | some t => d.tileBels t
  | none => .ok []

def belLocation (b : BelId) : Query Loc := do
  let (x, y) ← d.tileXY b.tile
  return ⟨x, y, signed (← d.bel b).z⟩

def belByLocation (l : Loc) : Query (Option BelId) :=
  match d.tileAt l.x l.y with
  | none => .ok none
  | some t => do
    return ((← d.tileType t).bels.findIdx? fun b => signed b.z = l.z).map fun i => ⟨t, i⟩

def belPin? (b : BelId) (pin : Ident) : Query (Option BelPin) := do
  return (← d.bel b).pins.find? fun p => p.port = pin

/-- Direction of a bel's pin; a pin that the bel does not have may go either way. -/
def belPinDir (b : BelId) (pin : Ident) : Query PinDir := do
  match ← d.belPin? b pin with
  | some p => return p.dir
  | none => return .inout

def belTileType (b : BelId) : Query Ident := d.tileTypeName b.tile

def belSite (b : BelId) : Query (Option Site) := do
  match (← d.bel b).site with
  | none => return none
  | some s => return some (← d.site ⟨b.tile, s⟩)

def belSiteName (b : BelId) : Query (Option String) := do
  return (← d.belSite b).map (·.name)

def belPackagePin (b : BelId) : Query (Option String) := do
  return ((← d.belSite b).map (·.pin)).filter fun pin => !pin.isEmpty

/-- The timing record of a bel, if the record carries one. -/
def instanceTiming (b : BelId) : Query (Option InstanceTiming) := do
  match ← d.tileTimingIndex b.tile with
  | none => return none
  | some table => match (← d.bel b).timingInst with
    | none => return none
    | some inst => return (d.record.timingTables[table]?).bind (·.instances[inst]?)

/-- Whether a bel sits in a logic tile. -/
def isLogicTile (b : BelId) : Query Bool := do
  let tt ← d.belTileType b
  return Known.logicTileTypes.any fun name => tt = Known.ident name

/-! ### Wires -/

/-- The handle of a tile's wire: its node, when it belongs to one. -/
def canonicalWire (w : TileWire) : Query WireId := do
  match ← fetch (← d.tile w.tile).wireToNode w.index with
  | some n => return .node n
  | none => return .tile w.tile w.index

/-- The wires of tiles that make up a wire. -/
def wireMembers : WireId → Query (List TileWire)
  | .tile t i => .ok [⟨t, i⟩]
  | .node n => do return (← fetch d.record.nodes n).tileWires.toList

def wireMemberCount (w : WireId) : Query Nat := do return (← d.wireMembers w).length

/-- The member that stands for a wire. -/
def canonicalMember : WireId → Query TileWire
  | .tile t i => .ok ⟨t, i⟩
  | .node n => do fetch (← fetch d.record.nodes n).tileWires 0

def memberInfo (w : TileWire) : Query Wire := do fetch (← d.tileType w.tile).wires w.index

def wireInfo (w : WireId) : Query Wire := do d.memberInfo (← d.canonicalMember w)

def wireTile (w : WireId) : Query Nat := do return (← d.canonicalMember w).tile

/-- The intent of a wire; a node has its own. -/
def wireIntent (w : WireId) : Query Ident :=
  match w with
  | .tile .. => do return (← d.wireInfo w).intent
  | .node n => do return (← fetch d.record.nodes n).intent

def wireSite (w : WireId) : Query (Option Nat) := do return (← d.wireInfo w).site

def belPinWire (b : BelId) (pin : Ident) : Query (Option WireId) := do
  match ← d.belPin? b pin with
  | some p => return some (← d.canonicalWire ⟨b.tile, p.wire⟩)
  | none => return none

/-- Pips of some kind at every member of a wire. -/
def pipsAt (list : Wire → Array Nat) (w : WireId) : Query (List PipId) := do
  let perMember ← (← d.wireMembers w).mapM fun m => do
    return (list (← d.memberInfo m)).toList.map fun i => (⟨m.tile, i⟩ : PipId)
  return perMember.flatten

/-- The pips that drive a wire. -/
def pipsUphill (w : WireId) : Query (List PipId) := d.pipsAt (·.uphill) w

/-- The pips that a wire drives. -/
def pipsDownhill (w : WireId) : Query (List PipId) := d.pipsAt (·.downhill) w

/-! ### Pips -/

def pip (p : PipId) : Query Pip := do fetch (← d.tileType p.tile).pips p.index

/-- The wire that drives a pip. -/
def pipSrcWire (p : PipId) : Query WireId := do d.canonicalWire ⟨p.tile, (← d.pip p).src⟩

/-- The wire that a pip drives. -/
def pipDstWire (p : PipId) : Query WireId := do d.canonicalWire ⟨p.tile, (← d.pip p).dst⟩

def isBlacklisted (p : PipId) : Query Bool := do
  return d.blacklist.contains (← d.tile p.tile).tileType p.index

end Device
end Interconnect
