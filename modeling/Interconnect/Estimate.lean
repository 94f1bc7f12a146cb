import Interconnect.Context.Basic
import Interconnect.Delay
/-!
# Estimates

Both ends of a route are reduced to grid coordinates, and the distance between them is priced axis
by axis: one price per step up to a knee, another beyond. No price beyond a word is given.
-/
namespace Interconnect

/-- The price of distance along one axis. -/
structure AxisCost where
  near : Delay
  knee : Int
  far : Delay
  deriving DecidableEq, Repr

namespace AxisCost

def price (a : AxisCost) (distance : Int) : Delay :=
  let d : Int := distance.natAbs
  a.near * min d a.knee + a.far * max (d - a.knee) 0

def routeX : AxisCost := ⟨30, 18, 10⟩
def routeY : AxisCost := ⟨60, 6, 20⟩
def predictX : AxisCost := ⟨70, 18, 50⟩
def predictY : AxisCost := ⟨210, 6, 150⟩

end AxisCost

namespace Estimate

/-- How many members of a node are looked at. -/
def memberLimit : Nat := 200

/-- The price of any route before distance. -/
def routeBase : Delay := 300

def predictBase : Delay := 500

/-- The delay from a constant that is everywhere on the device. -/
def globalDelay : Delay := 15000

/-- The delay between wires that meet at a sink's location. -/
def sinkLocalDelay : Delay := 1000

/-- The place of the second flip-flop in a cluster. -/
def secondFlipFlop : Int := 3

def isPower (intent : Ident) : Bool :=
  intent = Known.ident "PSEUDO_GND" || intent = Known.ident "PSEUDO_VCC"

def isGlobalPowerName (name : Ident) : Bool :=
  name = Known.ident "PSEUDO_GND_WIRE_GLBL" || name = Known.ident "PSEUDO_VCC_WIRE_GLBL"

def isRowPowerName (name : Ident) : Bool :=
  name = Known.ident "PSEUDO_GND_WIRE_ROW" || name = Known.ident "PSEUDO_VCC_WIRE_ROW"

/-- Of two numbers the one nearer to a third; the first if both are as near. -/
def nearer (x a b : Int) : Int := if (b - x).natAbs < (a - x).natAbs then b else a

/-- On each axis the number nearest to a point, the earliest of the nearest. -/
def nearestAxes (goal : Int × Int) : List (Int × Int) → Option (Int × Int)
  | [] => none
  | p :: ps => some <|
    ps.foldl (fun best q => (nearer goal.1 best.1 q.1, nearer goal.2 best.2 q.2)) p

/-- Whether points can be compared by their distances from a point: there is nothing to compare, or
every distance fits a word. -/
def comparable (goal : Int × Int) (ps : List (Int × Int)) : Bool :=
  decide (ps.length < 2) ||
    ps.all fun p =>
      decide (FitsWord (p.1 - goal.1).natAbs) && decide (FitsWord (p.2 - goal.2).natAbs)

end Estimate

namespace Context

open Estimate

variable (c : Context)

/-- Where a wire is: at its sink location, at its site's interconnect, or in its tile. -/
def wireAnchor (w : WireId) : Query (Int × Int) :=
  match c.sinkLocation w with
  | some xy => .ok xy
  | none => do
    let inTile : Query (Int × Int) := do c.device.tileXY (← c.device.wireTile w)
    match w with
    | .node _ => inTile
    | .tile t _ =>
      if (← c.device.tile t).sites.isEmpty then inTile
      else
        let site := (← c.device.wireSite w).getD 0
        match ← c.device.siteInterXY ⟨t, site⟩ with
        | some xy => return xy
        | none => c.device.tileXY t

/-- Where a constant net's node is: in its tile, in the middle of its row, or everywhere. -/
def powerAnchor (src : WireId) : Query (Option (Int × Int)) := do
  let name := (← c.device.wireInfo src).name
  if isGlobalPowerName name then return none
  let (x, y) ← c.device.tileXY (← c.device.wireTile src)
  return some (if isRowPowerName name then c.device.width.tdiv 2 else x, y)

/-- The coordinates of the members of a node that drive something, among the first members. -/
def drivingMembers (src : WireId) (intent : Ident) : Query (List (Int × Int)) := do
  let members := (← c.device.wireMembers src).take memberLimit
  let places ← members.mapM fun m => do
    if (← c.device.memberInfo m).downhill.isEmpty && intent ≠ Known.ident "NODE_PINFEED" then
      return none
    else return some (← c.device.tileXY m.tile)
  return places.filterMap id

/-- Where a source is, seen from its destination; `none` is everywhere. Of a node's members those
count that are nearest on each axis. -/
def sourceAnchor (src : WireId) (dst : Int × Int) : Query (Option (Int × Int)) :=
  match src with
  | .tile .. => some <$> c.wireAnchor src
  | .node _ =>
    match c.sinkLocation src with
    | some xy => .ok (some xy)
    | none => do
      let intent ← c.device.wireIntent src
      if isPower intent then c.powerAnchor src
      else
        let places ← c.drivingMembers src intent
        if !comparable dst places then throw .overflow
        match nearestAxes dst places with
        | some xy => return some xy
        | none => return some (← c.device.tileXY (← c.device.wireTile src))

/-- Whether a destination's location is also that of the source. -/
def meetsAtSink (src dst : WireId) : Query Bool :=
  match c.sinkLocation dst with
  | none => .ok false
  | some xy => do
    if (← c.device.wireTile src) = (← c.device.wireTile dst) then return true
    else return c.sinkLocation src = some xy

/-- The estimated delay between two places, before corrections. -/
def routePrice (src dst : Int × Int) : Query Delay := do
  let base :=
    AxisCost.routeX.price (dst.1 - src.1) + AxisCost.routeY.price (dst.2 - src.2) + routeBase
  if c.device.isXc7 then return (← word (base * 3)).tdiv 2 else word base

/-- What a source's intent takes off the price, also depending on whether both ends coincide. -/
def intentDiscount (intent : Ident) (here : Bool) : Delay :=
  (if intent = Known.ident "NODE_PINFEED" && here then 200
    else if (intent = Known.ident "NODE_LOCAL" || intent = Known.ident "NODE_PINBOUNCE") && here
    then 100
    else 0) +
  (if intent = Known.ident "NODE_CLE_OUTPUT" then 80 else 0)

/-- The estimated delay of a route; nothing from a wire to itself. -/
def estimateDelay (src dst : WireId) : Query Delay := do
  if src = dst then return 0
  if ← c.meetsAtSink src dst then return sinkLocalDelay
  let dstXY ← c.wireAnchor dst
  match ← c.sourceAnchor src dstXY with
  | none => return globalDelay
  | some srcXY =>
    let intent ← c.device.wireIntent src
    let atSink : Delay := if (c.sinkLocation dst).isSome then 1000 else 0
    let price ← word ((← c.routePrice srcXY dstXY) + atSink)
    return price - intentDiscount intent (srcXY = dstXY)

/-- The rectangle between both ends of a route. -/
def routeBox (src dst : WireId) : Query Rect := do
  let dstXY ← c.wireAnchor dst
  let srcXY ← match ← c.sourceAnchor src dstXY with
    | some xy => pure xy
    | none => do c.device.tileXY (← c.device.wireTile src)
  return Rect.spanning srcXY dstXY

/-- The price of leaving the box by some distance. Constant nodes may go anywhere. -/
def boxCost (src : WireId) (distance : Int) : Query Delay := do
  let exempt ← match src with
    | .tile .. => pure false
    | .node _ => isPower <$> c.device.wireIntent src
  if exempt || distance < c.estimator.boxThreshold then return 0
  word ((distance - c.estimator.boxThreshold) * c.estimator.boxCostPerUnit)

/-- The penalty of ripping up a route at a wire; pin feeds are dearer. -/
def wireRipupPenalty (w : WireId) : Query Delay := do
  if (← c.device.wireIntent w) = Known.ident "NODE_PINFEED" then
    return (← word (c.ripupPenalty * 3)).tdiv 2
  else return c.ripupPenalty

/-- The predicted delay between bels of one tile, by their clusters. -/
def clusterDelay (src dst : Int) : Query Delay := do
  let cluster := signed (max c.estimator.clusterBels 1)
  if (← word (src.tdiv cluster)) = (← word (dst.tdiv cluster)) then return 0
  else if dst.tmod cluster = secondFlipFlop then return 700
  else return 150

def placedDelay (src dst : BelId) : Query Delay := do
  let a ← c.device.belLocation src
  let b ← c.device.belLocation dst
  if src.tile = dst.tile then c.clusterDelay a.z b.z
  else word <|
    AxisCost.predictX.price (b.x - a.x) + AxisCost.predictY.price (b.y - a.y) + predictBase

/-- The predicted delay from a net's driver to a sink; nothing while either is unplaced. -/
def predictDelay (net : NetId) (sink : PortRef) : Query Delay := do
  match (← c.netlist.net net).driver with
  | none => return 0
  | some driver =>
    match (← c.netlist.cell driver.cell).bel, (← c.netlist.cell sink.cell).bel with
    | some src, some dst => c.placedDelay src dst
    | _, _ => return 0

end Context
end Interconnect
