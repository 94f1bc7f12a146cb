import Interconnect.Chip.Record
import Interconnect.Text.Search
/-!
# Excluded pips

Some clock-management pips of the 7-series are broken or close unroutable loops. Rules over the
names of tile types and wires tell which; they are evaluated once for every tile type.
-/
namespace Interconnect

/-- Which pips of which tile types are excluded. -/
structure ExclusionRule where
  /-- Whether the pattern must start the tile type's name, or may stand anywhere in it. -/
  atStart : Bool
  tileType : String
  /-- What the name of the driven wire must contain. -/
  dst : String := ""
  /-- What the name of the driving wire must contain. -/
  src : String := ""
  deriving DecidableEq, Repr

namespace ExclusionRule

/-- A tile type follows the first rule that applies to it. -/
def all : List ExclusionRule :=
  [{ atStart := true, tileType := "HCLK_CMT", dst := "FREQ_REF" },
   { atStart := true, tileType := "CMT_TOP_L_LOWER" },
   { atStart := true, tileType := "HCLK_IOI3", dst := "RCLK_BEFORE_DIV", src := "IMUX" },
   { atStart := false, tileType := "IOI3", dst := "CLKB", src := "IMUX22" }]

def appliesTo (rule : ExclusionRule) (typeName : String) : Bool :=
  if rule.atStart then Text.startsWith rule.tileType typeName
  else Text.contains rule.tileType typeName

/-- Whether a wire's name contains a pattern; every name contains the empty one. -/
def wireMatches (ids : IdentTable) (tt : TileType) (pattern : String) (wire : Nat) :
    Query Bool := do
  if pattern.isEmpty then return true
  let w ← fetch tt.wires wire
  return Text.contains pattern (← ids.resolve w.name)

def excludes (rule : ExclusionRule) (ids : IdentTable) (tt : TileType) (pip : Pip) :
    Query Bool := do
  if ← wireMatches ids tt rule.dst pip.dst then wireMatches ids tt rule.src pip.src
  else return false

end ExclusionRule

/-- For each tile type the excluded pips. -/
structure Blacklist where
  excluded : Array (Array Bool)
  deriving DecidableEq, Repr

namespace Blacklist

def empty : Blacklist := ⟨#[]⟩

/-- The excluded pips of one tile type; nothing without a rule for it. -/
def ofTileType (ids : IdentTable) (tt : TileType) : Query (Array Bool) := do
  let typeName ← ids.resolve tt.typeName
  match ExclusionRule.all.find? (·.appliesTo typeName) with
  | none => return #[]
  | some rule => return (← tt.pips.toList.mapM (rule.excludes ids tt)).toArray

def ofRecord (ids : IdentTable) (r : ChipRecord) : Query Blacklist := do
  return ⟨(← r.tileTypes.toList.mapM (ofTileType ids)).toArray⟩

/-- Whether a pip of a tile type is excluded; what is in no table is not. -/
def contains (b : Blacklist) (tileType pip : Nat) : Bool :=
  match b.excluded[tileType]? with
  | some pips => (pips[pip]?).getD false
  | none => false

def size (b : Blacklist) : Nat := (b.excluded.toList.flatMap (·.toList)).count true

end Blacklist
end Interconnect
