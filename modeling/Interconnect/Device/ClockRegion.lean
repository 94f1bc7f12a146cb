import Interconnect.Device.Names
/-!
# Clock rows of input and output tiles

An I/O bel's pad stands next to the tile that holds its I/O logic, and that tile's clock wire is
driven from the clock row which serves it.
-/
namespace Interconnect

inductive ClockRowError where
  | unknownSide (tileType : String)
  | noNeighbour (tile : String)
  | noClockWire (tile : String)
  | noDriver (wire : String)
  deriving DecidableEq, Repr

def ClockRowError.message : ClockRowError → String
  | unknownSide tt => s!"internal error: unknown IOB side for tile type '{tt}'"
  | noNeighbour t => s!"internal error: IOB tile {t} has no neighbouring IOI tile"
  | noClockWire t => s!"internal error: tile {t} has no IOI_IOCLK0 wire"
  | noDriver w => s!"internal error: failed to find HCLK pips driving {w}"

namespace Device

variable (d : Device)

/-- The tile that drives an I/O logic tile's clock wire. -/
def hclkForIoi (ioi : Nat) : Query (Except ClockRowError Nat) := do
  let isClock (w : Wire) : Bool :=
    w.name = Known.ident "IOI_IOCLK0" || w.name = Known.ident "IOI_SING_IOCLK0"
  match (← d.tileType ioi).wires.findIdx? isClock with
  | none => return .error (.noClockWire (← d.tileName ioi))
  | some i =>
    let wire ← d.canonicalWire ⟨ioi, i⟩
    match ← d.pipsUphill wire with
    | pip :: _ => return .ok pip.tile
    | [] => return .error (.noDriver (← d.wireName wire))

/-- The I/O logic tile is to the right of a left pad and to the left of a right pad. -/
def hclkForIob (pad : BelId) : Query (Except ClockRowError Nat) := do
  let typeName ← d.nameOf (← d.belTileType pad)
  let neighbour ←
    if Text.startsWith "LIOB" typeName then pure (some (pad.tile + 1))
    else if Text.startsWith "RIOB" typeName then
      pure (if pad.tile = 0 then none else some (pad.tile - 1))
    else return .error (.unknownSide typeName)
  match neighbour.filter (· < d.tileCount) with
  | some ioi => d.hclkForIoi ioi
  | none => return .error (.noNeighbour (← d.tileName pad.tile))

end Device
end Interconnect
