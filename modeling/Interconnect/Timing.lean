import Interconnect.Context.Basic
import Interconnect.Delay
/-!
# Cell timing

Delays through cells, from the timing record of the bel that a cell sits on or from fixed values,
and the part that each port plays in timing analysis.
-/
namespace Interconnect

inductive PortClass where
  | ignore
  | combInput
  | combOutput
  | clockInput
  | registerInput
  | registerOutput
  | startpoint
  | endpoint
  deriving DecidableEq, Repr

inductive ClockEdge where
  | rising
  | falling
  deriving DecidableEq, Repr

structure Clocking where
  setup : Delay
  hold : Delay
  clockToQ : Delay
  port : Ident
  edge : ClockEdge

namespace Timing

/-- Shorter lists are searched from the front, longer ones by halving. -/
def scanLimit : Nat := 7

/-- The last entry not above a key, among `size` entries from `base` on, if entries are sorted. -/
def bisect {α κ : Type} [Ord κ] (table : Array α) (key : κ) (keyOf : α → κ) (base size : Nat) :
    Nat :=
  if size ≤ 1 then base
  else
    let half := size / 2
    let above : Bool := match table[base + half]? with
      | some a => compare (keyOf a) key == .gt
      | none => true
    bisect table key keyOf (if above then base else base + half) (size - half)
termination_by size
decreasing_by omega

/-- An entry of a key in a table sorted by key. -/
def findSorted {α κ : Type} [Ord κ] [DecidableEq κ] (table : Array α) (key : κ) (keyOf : α → κ) :
    Option α :=
  if table.size < scanLimit then table.find? fun a => keyOf a = key
  else (table[bisect table key keyOf 0 table.size]?).filter fun a => compare (keyOf a) key == .eq

def lutInputs : List Ident := ["A1", "A2", "A3", "A4", "A5", "A6"].map Known.ident

def wideMuxes : List Ident := ["F7MUX", "F8MUX", "F9MUX", "SELMUX2_1"].map Known.ident

/-- Through a lookup table without a timing record. -/
def lutDelay : Delay := 200

/-- Through a wide multiplexer without a timing record. -/
def muxDelay : Delay := 100

def clockBufferDelay : Delay := 200

/-- The timing variant of a lookup table, by its place. -/
def lutVariant (isMemory isHalf : Bool) : Ident :=
  Known.ident <| match isMemory, isHalf with
    | true, true => "LUT_OR_MEM5LRAM"
    | true, false => "LUT_OR_MEM6LRAM"
    | false, true => "LUT5"
    | false, false => "LUT6"

end Timing

namespace Context

open Timing

variable (c : Context)

def clockPort : Ident := Known.ident (if c.device.isXc7 then "CK" else "CLK")

/-- The stored delay of an arc of a placed cell. -/
def storedDelay (cell : CellId) (variant fromPort toPort : Ident) : Query (Option Delay) := do
  match (← c.netlist.cell cell).bel with
  | none => return none
  | some b => match ← c.device.instanceTiming b with
    | none => return none
    | some inst => return do
      let variants ← findSorted inst.cellTypes variant (·.variant)
      -- arcs are sorted by target, and by source within a target
      let arc ← findSorted variants.delays [toPort, fromPort] fun d => [d.toPort, d.fromPort]
      return arc.maxDelay

/-- The bel of a cell, if the bel has a timing record of its own. -/
def timedBel? (cell : Cell) : Query (Option BelId) :=
  match cell.bel with
  | none => .ok none
  | some b =>
    if c.device.isXc7 then do
      return if (← c.device.bel b).timingInst.isSome then some b else none
    else .ok none

/-- The delay through a lookup table on a timed bel. A half table has one input less. -/
def timedLutDelay (cell : CellId) (b : BelId) (fromPort toPort : Ident) : Query (Option Delay) := do
  let z := ((← c.device.belLocation b).z % 4294967296).toNat
  let tileType ← c.device.belTileType b
  let isHalf : Bool := z % 16 = 1
  let isMemory : Bool :=
    (tileType = Known.ident "CLBLM_L" || tileType = Known.ident "CLBLM_R") && z < 64
  if fromPort = Known.ident "CLK" then return none
  let fromPort :=
    if isHalf && fromPort = Known.ident "A6" then Known.ident "A5" else fromPort
  let toPort := if isHalf && toPort = Known.ident "O6" then Known.ident "O5" else toPort
  c.storedDelay cell (lutVariant isMemory isHalf) fromPort toPort

/-- The delay of an arc through a cell, if the arc is modelled. -/
def cellDelay (cell : CellId) (fromPort toPort : Ident) : Query (Option Delay) := do
  let info ← c.netlist.cell cell
  let timed ← c.timedBel? info
  let ty := info.cellType
  if ty = Known.ident "SLICE_LUTX" then
    match timed with
    | some b => c.timedLutDelay cell b fromPort toPort
    | none =>
      let isOutput := toPort = Known.ident "O5" || toPort = Known.ident "O6"
      return if lutInputs.contains fromPort && isOutput then some lutDelay else none
  else if ty = Known.ident "CARRY4" then
    match timed with
    | some _ => c.storedDelay cell (Known.ident "CARRY4") fromPort toPort
    | none => return none
  else if wideMuxes.contains ty then
    match timed with
    | some _ => c.storedDelay cell ty fromPort toPort
    | none => return some muxDelay
  else if ty = Known.ident "BUFGCTRL"
      && (fromPort = Known.ident "I0" || fromPort = Known.ident "I1")
      && toPort = Known.ident "O" then
    return some clockBufferDelay
  else return none

/-- The part of a cell's port, and the number of its clocking records. -/
def portClass (cell : CellId) (port : Ident) : Query (PortClass × Nat) := do
  let info ← c.netlist.cell cell
  let ty := info.cellType
  let is (name : String) : Bool := port = Known.ident name
  if ty = Known.ident "SLICE_LUTX" then
    let drives (name : String) : Bool := (info.portNet (Known.ident name)).isSome
    return if !drives "O5" && !drives "O6" then (.ignore, 0)
      else if lutInputs.contains port then (.combInput, 0)
      else if is "O5" || is "O6" then (.combOutput, 0)
      else (.ignore, 0)
  else if ty = Known.ident "CARRY4" && info.bel.isSome then
    let declared : Option Port := info.ports[port]?
    return match declared with
      | some ⟨.output, _⟩ => (.combOutput, 0)
      | some _ => (.combInput, 0)
      | none => (.ignore, 0)
  else if ty = Known.ident "SLICE_FFX" then
    return if port = c.clockPort then (.clockInput, 0)
      else if is "Q" then (.registerOutput, 1)
      else (.registerInput, 1)
  else if wideMuxes.contains ty then
    return if is "OUT" then (.combOutput, 0) else (.combInput, 0)
  else if ty = Known.ident "IOB_IBUFCTRL" then
    return if is "O" then (.startpoint, 0) else (.ignore, 0)
  else if ty = Known.ident "IOB_OUTBUF" then
    return if is "I" then (.endpoint, 0) else (.ignore, 0)
  else if ty = Known.ident "BUFGCTRL" then
    return if is "I0" || is "I1" then (.combInput, 0)
      else if is "O" then (.combOutput, 0)
      else (.ignore, 0)
  else return (.ignore, 0)

/-- The clocking record of a register's port: a tenth of a nanosecond each way. -/
def clocking : Clocking where
  setup := 100
  hold := 100
  clockToQ := 100
  port := c.clockPort
  edge := .rising

end Context
end Interconnect
