import Interconnect.Device.Names
import Interconnect.Estimate
import Interconnect.Text.Columns
import Interconnect.Text.Json
/-!
# Reports

What the commands say about a device, its pins, bels and wires, and about run settings.
-/
namespace Interconnect.CommandLine

inductive CommandError where
  | chip (e : ChipError)
  | settings (e : SettingsError)
  | pinNotBonded (pin device : String)
  | pinSiteMissing (site pin : String)
  | unknownBel (name device : String)
  | unknownWire (name device : String)
  deriving DecidableEq, Repr

def CommandError.message : CommandError → String
  | chip e => e.message
  | settings e => e.message
  | pinNotBonded pin device => s!"package pin '{pin}' is not bonded on {device}"
  | pinSiteMissing site pin => s!"site '{site}' of pin '{pin}' is missing from the grid"
  | unknownBel name device => s!"no bel named '{name}' on {device}"
  | unknownWire name device => s!"no wire named '{name}' on {device}"

/-- A report, or why there is none. -/
abbrev Report := Query (Except CommandError String)

/-- A summary of a device, a row a fact. -/
def infoText (d : Device) : Query String := do
  let rows := [
    ("chip", d.chipName),
    ("family", d.family.label),
    ("grid", s!"{d.width} x {d.height}"),
    ("tiles", toString d.tileCount),
    ("tile types", toString d.record.tileTypes.size),
    ("bels", toString (← d.bels).length),
    ("nodes", toString d.record.nodes.size),
    ("blacklisted", s!"{d.blacklist.size} pips"),
    ("timing", if d.record.timing.isSome then "present" else "absent"),
    ("checksum", d.db.checksum.toHex)]
  return String.join (rows.map fun (key, value) => Text.alignRight 12 key ++ ": " ++ value ++ "\n")

def infoJson (d : Device) : Query String := do
  return Text.jsonObject [
    ("bels", .number (← d.bels).length),
    ("blacklisted_pips", .number d.blacklist.size),
    ("checksum", .text d.db.checksum.toHex),
    ("chip", .text d.chipName),
    ("family", .text d.family.label),
    ("generator", .text d.record.generator),
    ("height", .number d.height),
    ("nodes", .number d.record.nodes.size),
    ("tile_types", .number d.record.tileTypes.size),
    ("tiles", .number d.tileCount),
    ("timing", .boolean d.record.timing.isSome),
    ("width", .number d.width)] ++ "\n"

def pinReport (d : Device) (pin : String) : Report :=
  match d.packagePinSite pin with
  | none => .ok (.error (.pinNotBonded pin d.chipName))
  | some site => match d.siteByName site with
    | none => .ok (.error (.pinSiteMissing site pin))
    | some s => do
      let head := s!"{pin} -> {site} in {← d.tileName s.tile}\n"
      let (x, y) ← d.tileXY s.tile
      let lines ← (← d.belsAt x y).mapM fun b => do
        if (← d.belSiteName b) = some site then
          return s!"  {← d.belName b} ({← d.nameOf (← d.bel b).belType})\n"
        else return ""
      return .ok (head ++ String.join lines)

def directionText : PinDir → String
  | .input => "in"
  | .output => "out"
  | .inout => "inout"

/-- Where a bel is, and the wires at its pins. -/
def belReport (d : Device) (name : String) : Report := do
  match ← d.belByName name with
  | none => return .error (.unknownBel name d.chipName)
  | some b =>
    let info ← d.bel b
    let loc ← d.belLocation b
    let pins ← info.pins.toList.mapM fun p => do
      let wire ← match ← d.belPinWire b p.port with
        | some w => d.wireName w
        | none => pure "-"
      let port := Text.alignLeft 8 (← d.nameOf p.port)
      let dir := Text.alignLeft 5 (directionText (← d.belPinDir b p.port))
      return s!"    {port} {dir} {wire}\n"
    let timing := match info.timingInst with
      | some i => s!"  timing:   instance {i}\n"
      | none => ""
    return .ok <|
      s!"{← d.belName b}\n" ++
      s!"  type:     {← d.nameOf info.belType}\n" ++
      s!"  location: ({loc.x}, {loc.y}, {loc.z})\n" ++
      s!"  tile:     {← d.tileName b.tile} ({← d.nameOf (← d.belTileType b)})\n" ++
      "  site:     " ++ (← d.belSiteName b).getD "-" ++ "\n" ++
      timing ++ "  pins:\n" ++ String.join pins

/-- The estimated delay between two wires, and the box of a route between them. -/
def estimateReport (c : Context) (src dst : String) : Report := do
  match ← c.device.wireByName src, ← c.device.wireByName dst with
  | none, _ => return .error (.unknownWire src c.device.chipName)
  | some _, none => return .error (.unknownWire dst c.device.chipName)
  | some a, some b =>
    let delay ← c.estimateDelay a b
    let box ← c.routeBox a b
    return .ok <|
      s!"{← c.device.wireName a} -> {← c.device.wireName b}\n" ++
      s!"  delay:    {delay} ps ({Delay.nanosecondText delay} ns)\n" ++
      s!"  bounds:   x {box.x0}..{box.x1}, y {box.y0}..{box.y1}\n"

def settingsReport (s : RunSettings) : String :=
  s!"chipdb:   {s.chipFile}\n" ++
  s!"placer:   {s.placer}\n" ++
  s!"ripup:    {s.ripupPenalty} ps\n" ++
  s!"cluster:  {s.estimator.clusterBels} bels\n" ++
  s!"bbox:     {s.estimator.boxCostPerUnit} per unit above {s.estimator.boxThreshold}\n"

def openedReport (d : Device) : String :=
  s!"device {d.chipName} ({d.family.label}) opened: {d.width} x {d.height} tiles\n"

end Interconnect.CommandLine
