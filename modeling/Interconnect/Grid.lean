import Interconnect.Fault
import Std.Data.ExtTreeMap
/-!
# Places on the grid

Handles of the resources of a device, the order in which wires are listed, and the rectangle that
two points span.
-/
namespace Interconnect

/-- The tables of a tile that handles point into. -/
inductive TileTable where
  | bels
  | pips
  | wires
  | sites
  deriving DecidableEq, Repr

structure TileRef (table : TileTable) where
  tile : Nat
  index : Nat
  deriving DecidableEq, Repr

abbrev BelId := TileRef .bels
abbrev PipId := TileRef .pips
abbrev TileWire := TileRef .wires
abbrev SiteId := TileRef .sites

/-- A routing wire: one tile's own, or a node that joins the wires of several tiles. -/
inductive WireId where
  | tile (tile index : Nat)
  | node (index : Nat)
  deriving DecidableEq, Repr

/-- A place on the grid; `z` tells apart the bels of one tile. -/
structure Loc where
  x : Int
  y : Int
  z : Int
  deriving DecidableEq, Repr

/-- The signed 32-bit number with the same bits as a word. -/
def signed (n : Nat) : Int := Int.bmod n 4294967296

theorem signed_of_lt {n : Nat} (h : n < 2147483648) : signed n = n :=
  Int.bmod_eq_of_le (by omega) (by omega)

theorem signed_of_ge {n : Nat} (h : 2147483648 ≤ n) (hn : n < 4294967296) : signed n = n - 4294967296 :=
  (Int.sub_bmod_right n 4294967296).symm.trans (Int.bmod_eq_of_le (by omega) (by omega))

namespace TileRef

variable {table : TileTable}

/-- Tile by tile, and by index within a tile. -/
instance : Ord (TileRef table) := ⟨compareLex (compareOn tile) (compareOn index)⟩

instance : Std.TransOrd (TileRef table) :=
  inferInstanceAs (Std.TransCmp (compareLex (compareOn tile) (compareOn index)))

instance : Std.LawfulEqOrd (TileRef table) where
  eq_of_compare {a b} h := by
    have h := Ordering.then_eq_eq.1 h
    cases a; cases b
    simpa [compareOn] using h

end TileRef

namespace WireId

/-- Zero for the wires of tiles, one for nodes. -/
def kind : WireId → Nat
  | tile .. => 0
  | node _ => 1

def major : WireId → Nat
  | tile t _ => t
  | node n => n

def minor : WireId → Nat
  | tile _ i => i
  | node _ => 0

/-- The wires of tiles come first, by tile and index; nodes follow by number. -/
instance : Ord WireId :=
  ⟨compareLex (compareOn kind) (compareLex (compareOn major) (compareOn minor))⟩

instance : Std.TransOrd WireId :=
  inferInstanceAs
    (Std.TransCmp (compareLex (compareOn kind) (compareLex (compareOn major) (compareOn minor))))

instance : Std.LawfulEqOrd WireId where
  eq_of_compare {a b} h := by
    have h1 := Ordering.then_eq_eq.1 h
    have h2 := Ordering.then_eq_eq.1 h1.2
    cases a <;> cases b <;> simp_all [compareOn, kind, major, minor]

end WireId

/-- A rectangle of grid points, edges included. -/
structure Rect where
  x0 : Int
  y0 : Int
  x1 : Int
  y1 : Int
  deriving DecidableEq, Repr

namespace Rect

/-- The rectangle between two corners. -/
def spanning (a b : Int × Int) : Rect :=
  ⟨min a.1 b.1, min a.2 b.2, max a.1 b.1, max a.2 b.2⟩

def contains (r : Rect) (x y : Int) : Bool :=
  decide (r.x0 ≤ x) && decide (x ≤ r.x1) && decide (r.y0 ≤ y) && decide (y ≤ r.y1)

/-- How far a point lies outside, along both axes together. -/
def distance (r : Rect) (x y : Int) : Int :=
  max (r.x0 - x) 0 + max (x - r.x1) 0 + max (r.y0 - y) 0 + max (y - r.y1) 0

/-- The distance from a point, as long as every difference fits a word. -/
def measure (r : Rect) (x y : Int) : Query Int := do
  for difference in [r.x0 - x, x - r.x1, r.y0 - y, y - r.y1] do
    let _ ← word difference
  word (r.distance x y)

end Rect
end Interconnect
