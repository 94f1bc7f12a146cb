import Interconnect.Device.Basic
import Interconnect.Text.Number
/-!
# Names of device resources

A bel is named by its site, or by its tile if it has no site; a wire by its tile. A pip inside a
site is named by site, bel and driving wire, and every other pip by its tile and the numbers of the
wires that it joins.
-/
namespace Interconnect.Device

variable (d : Device)

def nameOf (id : Ident) : Query String := d.ids.resolve id

def belName (b : BelId) : Query String := do
  let info ← d.bel b
  let owner ← match info.site with
    | some s => d.siteName ⟨b.tile, s⟩
    | none => d.tileName b.tile
  return s!"{owner}/{← d.nameOf info.name}"

/-- The first bel of a name, in the site or else in the tile that the name begins with. -/
def belByName (name : String) : Query (Option BelId) :=
  match Text.cutFirst? '/' name.toList with
  | none => .ok none
  | some (owner, rest) =>
    match d.ids.find? (String.ofList rest) with
    | none => .ok none
    | some id =>
      let find (t : Nat) (inPlace : Bel → Bool) : Query (Option BelId) := do
        let bels := (← d.tileType t).bels
        return (bels.findIdx? fun b => b.name = id && inPlace b).map fun i => ⟨t, i⟩
      let owner := String.ofList owner
      match d.siteByName owner with
      | some s => find s.tile fun b => b.site = some s.index
      | none => match d.tileByName owner with
        | some t => find t fun _ => true
        | none => .ok none

def memberName (w : TileWire) : Query String := do
  return s!"{← d.tileName w.tile}/{← d.nameOf (← d.memberInfo w).name}"

def wireName (w : WireId) : Query String := do d.memberName (← d.canonicalMember w)

/-- The wire of a name; every member of a node names the node. -/
def wireByName (name : String) : Query (Option WireId) :=
  match Text.cutFirst? '/' name.toList with
  | none => .ok none
  | some (tile, rest) =>
    match d.tileByName (String.ofList tile), d.ids.find? (String.ofList rest) with
    | some t, some id => do
      match (← d.tileType t).wires.findIdx? fun w => w.name = id with
      | some i => return some (← d.canonicalWire ⟨t, i⟩)
      | none => return none
    | _, _ => .ok none

/-- What every name of a pip inside a site starts with. -/
def sitePipHead : List Char := "SITEPIP/".toList

def pipName (p : PipId) : Query String := do
  let info ← d.pip p
  match info.site, info.bel, info.kind with
  | some site, some bel, .siteInternal =>
    let src ← d.memberInfo ⟨p.tile, info.src⟩
    return s!"SITEPIP/{← d.siteName ⟨p.tile, site⟩}/{← d.nameOf bel}/{← d.nameOf src.name}"
  | _, _, _ => return s!"{← d.tileName p.tile}/{info.src}.{info.dst}"

/-- The first pip of a site with the given bel and driving wire. -/
def sitePipByName (site bel src : String) : Query (Option PipId) :=
  match d.siteByName site, d.ids.find? bel, d.ids.find? src with
  | some s, some bel, some src => do
    let tt ← d.tileType s.tile
    let isIt (p : Pip) : Query Bool :=
      if p.kind = .siteInternal ∧ p.site = some s.index ∧ p.bel = some bel then do
        return (← fetch tt.wires p.src).name = src
      else .ok false
    let rec first : List Pip → Nat → Query (Option PipId)
      | [], _ => .ok none
      | p :: ps, i => do if ← isIt p then return some ⟨s.tile, i⟩ else first ps (i + 1)
    first tt.pips.toList 0
  | _, _, _ => .ok none

/-- The first pip of a tile that joins two wires. -/
def tilePipByName (tile : String) (src dst : Nat) : Query (Option PipId) :=
  match d.tileByName tile with
  | none => .ok none
  | some t => do
    return ((← d.tileType t).pips.findIdx? fun p => p.src = src && p.dst = dst).map fun i => ⟨t, i⟩

/-- The parts of a name of a pip inside a site, without its head. -/
def sitePipParts? (rest : List Char) : Option (List Char × List Char × List Char) := do
  let (site, rest) ← Text.cutFirst? '/' rest
  let (bel, src) ← Text.cutFirst? '/' rest
  return (site, bel, src)

/-- The parts of any other pip's name. -/
def tilePipParts? (name : List Char) : Option (List Char × Nat × Nat) := do
  let (tile, ends) ← Text.cutLast? '/' name
  let (src, dst) ← Text.cutFirst? '.' ends
  return (tile, ← Text.index? src, ← Text.index? dst)

def pipByName (name : String) : Query (Option PipId) :=
  let name := name.toList
  if sitePipHead.isPrefixOf name then
    match sitePipParts? (name.drop sitePipHead.length) with
    | some (site, bel, src) =>
      d.sitePipByName (String.ofList site) (String.ofList bel) (String.ofList src)
    | none => .ok none
  else
    match tilePipParts? name with
    | some (tile, src, dst) => d.tilePipByName (String.ofList tile) src dst
    | none => .ok none

end Interconnect.Device
