import Interconnect.Context.Basic
/-!
# Placing cells

A cell sits on at most one bel and a bel holds at most one cell. A refused request changes nothing.
-/
namespace Interconnect.Context

variable (c : Context)

/-- Places a cell on a bel that no other cell holds, off the bel that it held before. -/
def bindBel (b : BelId) (cell : CellId) (strength : Strength) :
    Query (Except BindError Context) := do
  match (← c.belCell b).filter (· ≠ cell) with
  | some other => return .error (.belOccupied b other)
  | none =>
    let before := (← c.netlist.cell cell).bel.filter (· ≠ b)
    let cells := match before with
      | some old => c.belCells.erase old
      | none => c.belCells
    return .ok { c with
      belCells := cells.insert b cell
      netlist := c.netlist.modifyCell cell fun x => { x with bel := some b, strength } }

/-- Takes the cell off a bel, unless its placement is locked. -/
def unbindBel (b : BelId) : Query (Except BindError (CellId × Context)) := do
  match ← c.belCell b with
  | none => return .error (.notBound (← c.device.belName b))
  | some cell =>
    if (← c.netlist.cell cell).strength = .locked then
      return .error (.locked (← c.device.belName b))
    return .ok (cell, { c with
      belCells := c.belCells.erase b
      netlist := c.netlist.modifyCell cell fun x => { x with bel := none } })

end Interconnect.Context
