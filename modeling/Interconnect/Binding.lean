import Interconnect.Grid
/-!
# Ownership of wires and pips

A wire or pip is free, or held by one net at one strength. A request is admitted if the resource is
free, held by the requesting net, or held at a strictly weaker strength; so what is held at the
greatest strength is never taken away.
-/
namespace Interconnect

abbrev CellId := Nat

abbrev NetId := Nat

inductive Strength where
  /-- Held tentatively. -/
  | weak
  /-- Held by placement or by the routing of the constant nets. -/
  | strong
  /-- Held for good. -/
  | locked
  deriving DecidableEq, Repr

namespace Strength

def rank : Strength → Nat
  | weak => 0
  | strong => 1
  | locked => 2

instance : LT Strength := ⟨fun a b => a.rank < b.rank⟩
instance : LE Strength := ⟨fun a b => a.rank ≤ b.rank⟩
instance (a b : Strength) : Decidable (a < b) := inferInstanceAs (Decidable (a.rank < b.rank))
instance (a b : Strength) : Decidable (a ≤ b) := inferInstanceAs (Decidable (a.rank ≤ b.rank))
instance : Max Strength := ⟨fun a b => if a ≤ b then b else a⟩

def label : Strength → String
  | weak => "Weak"
  | strong => "Strong"
  | locked => "Locked"

end Strength

/-- The net that holds a resource, and how strongly. -/
structure Hold where
  net : NetId
  strength : Strength
  deriving DecidableEq, Repr

/-- The record of one wire or pip; `none` is free. -/
abbrev Binding := Option Hold

namespace Binding

/-- Whether a net may take the resource at a strength. -/
def admits (b : Binding) (net : NetId) (strength : Strength) : Bool :=
  match b with
  | none => true
  | some held => decide (held.net = net) || decide (held.strength < strength)

/-- The record after a net has taken the resource; a net keeps the stronger of its own holds. -/
def rebound (b : Binding) (net : NetId) (strength : Strength) : Hold :=
  match b with
  | none => ⟨net, strength⟩
  | some held => if held.net = net then ⟨net, max held.strength strength⟩ else ⟨net, strength⟩

def heldByOther (b : Binding) (net : NetId) : Bool :=
  match b with
  | none => false
  | some held => decide (held.net ≠ net)

def conflict? (b : Binding) (net : NetId) (strength : Strength) : Option Hold :=
  if admits b net strength then none else b

end Binding

/-- A wire of a net's routing, and the pip that drives it, if one does. -/
structure RouteEntry where
  pip : Option PipId
  strength : Strength
  deriving DecidableEq, Repr

inductive BindError where
  | wireConflict (wire : WireId) (holder : Hold)
  | pipConflict (pip : PipId) (holder : Hold)
  | blacklisted (pip : PipId)
  /-- The named resource is locked and the release was not forced. -/
  | locked (resource : String)
  /-- The named resource holds nothing. -/
  | notBound (resource : String)
  | belOccupied (bel : BelId) (cell : CellId)
  deriving DecidableEq, Repr

def WireId.text : WireId → String
  | .tile t i => s!"Tile \x7b tile: {t}, index: {i} \x7d"
  | .node n => s!"Node({n})"

def PipId.text (p : PipId) : String := s!"PipId \x7b tile: {p.tile}, index: {p.index} \x7d"

def BelId.text (b : BelId) : String := s!"BelId \x7b tile: {b.tile}, index: {b.index} \x7d"

def BindError.message : BindError → String
  | wireConflict w h => s!"wire {w.text} is held by net {h.net} at {h.strength.label}"
  | pipConflict p h => s!"pip {PipId.text p} is held by net {h.net} at {h.strength.label}"
  | blacklisted p => s!"pip {PipId.text p} is blacklisted"
  | locked r => s!"{r} is locked"
  | notBound r => s!"{r} is not bound"
  | belOccupied b c => s!"bel {BelId.text b} is occupied by cell {c}"

end Interconnect
