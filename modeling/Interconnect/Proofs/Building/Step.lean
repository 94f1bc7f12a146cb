import Interconnect.Chip.Builder
import Mathlib.Tactic.Common
/-!
# What a step of building does

A step registers its names in the order in which it gives them. Then it adds a tile type or changes
one, changes one tile of the grid, joins a node, or changes one timing table; whatever it does not name
stays as it was.
-/
namespace Interconnect

/-! ### Tables -/

theorem alter_eq_ok_iff {α : Type} {table table' : Array α} {index : Nat} {change : α → α} :
    alter table index change = .ok table' ↔
      ∃ entry, table[index]? = some entry ∧ table' = table.setIfInBounds index (change entry) := by
  rw [alter, bind_eq_ok_iff]
  constructor
  · intro h
    obtain ⟨entry, hentry, h⟩ := h
    exact ⟨entry, fetch_eq_ok_iff.1 hentry, (Except.ok.inj h).symm⟩
  · intro h
    obtain ⟨entry, hentry, rfl⟩ := h
    exact ⟨entry, fetch_eq_ok_iff.2 hentry, rfl⟩

theorem getElem?_set_of_getElem? {α : Type} {table : Array α} {index : Nat} {entry : α}
    (h : table[index]? = some entry) (new : α) (i : Nat) :
    (table.setIfInBounds index new)[i]? = if i = index then some new else table[i]? := by
  have hlt : index < table.size := (Array.getElem?_eq_some_iff.1 h).1
  by_cases hi : i = index
  · simp [hi, hlt]
  · simp [hi, Ne.symm hi]

theorem exists_of_getElem?_set {α : Type} {table : Array α} {index i : Nat} {old new entry : α}
    (hold : table[index]? = some old) (h : (table.setIfInBounds index new)[i]? = some entry) :
    ∃ before, table[i]? = some before ∧ (i = index ∧ before = old ∧ entry = new ∨
      i ≠ index ∧ entry = before) := by
  rw [getElem?_set_of_getElem? hold] at h
  split at h
  · next hi =>
    obtain rfl := Option.some.inj h
    exact ⟨old, hi ▸ hold, .inl ⟨hi, rfl, rfl⟩⟩
  · next hi => exact ⟨entry, h, .inr ⟨hi, rfl⟩⟩

theorem exists_of_getElem?_set_same {α β : Type} {table : Array α} {index i : Nat}
    {old new entry : α} (view : α → β) (hold : table[index]? = some old)
    (h : (table.setIfInBounds index new)[i]? = some entry) (hview : view new = view old) :
    ∃ before, table[i]? = some before ∧ view entry = view before := by
  obtain ⟨before, hbefore, ⟨-, rfl, rfl⟩ | ⟨-, rfl⟩⟩ := exists_of_getElem?_set hold h
  · exact ⟨before, hbefore, hview⟩
  · exact ⟨entry, hbefore, rfl⟩

theorem map_setIfInBounds {α β : Type} {table : Array α} {index : Nat} {old new : α}
    (hold : table[index]? = some old) {f : α → β} (h : f new = f old) :
    (table.setIfInBounds index new).toList.map f = table.toList.map f := by
  apply List.ext_getElem?
  intro i
  simp only [List.getElem?_map, Array.getElem?_toList, getElem?_set_of_getElem? hold]
  split
  · next hi => rw [hi, hold, Option.map_some, Option.map_some, h]
  · rfl

theorem flatMap_setIfInBounds {α β : Type} {table : Array α} {index : Nat} {old new : α}
    (hold : table[index]? = some old) {f : α → List β} (h : f new = f old) :
    (table.setIfInBounds index new).toList.flatMap f = table.toList.flatMap f := by
  rw [List.flatMap_def, List.flatMap_def, map_setIfInBounds hold h]

theorem flatMap_getElem?_setIfInBounds {α β : Type} {table : Array α} {index : Nat} {old new : α}
    (hold : table[index]? = some old) {f : α → List β} (h : f new = f old) (i : Nat) :
    ((table.setIfInBounds index new)[i]?).toList.flatMap f = (table[i]?).toList.flatMap f := by
  rw [getElem?_set_of_getElem? hold]
  split
  · next hi => simp [hi, hold, h]
  · rfl

theorem flatMap_getElem?_push {α β : Type} {table : Array α} {new : α} {f : α → List β}
    (h : f new = []) (i : Nat) :
    ((table.push new)[i]?).toList.flatMap f = (table[i]?).toList.flatMap f := by
  rw [Array.getElem?_push]
  split
  · next hi => simp [hi, h]
  · rfl

theorem flatMap_getElem?_setIfInBounds_append {α β : Type} {table : Array α} {index : Nat}
    {old new : α} {more : List β} (hold : table[index]? = some old) {f : α → List β}
    (h : f new = f old ++ more) (i : Nat) :
    ((table.setIfInBounds index new)[i]?).toList.flatMap f =
      (table[i]?).toList.flatMap f ++ if index = i then more else [] := by
  rw [getElem?_set_of_getElem? hold]
  by_cases hi : i = index
  · simp [hi, hold, h]
  · simp [hi, Ne.symm hi]

/-! ### Steps -/

namespace BuildStep

/-- The names that a step gives, in order. -/
def names : BuildStep → List String
  | ident name => [name]
  | tileType name => [name]
  | wire _ name intent => [name, intent]
  | sitePip _ _ _ _ owner => [owner]
  | bel _ name belType _ _ => [name, belType]
  | belPin _ _ port _ _ => [port]
  | node intent _ => [intent]
  | cellDelay _ _ variant fromPort toPort _ => [variant, fromPort, toPort]
  | _ => []

/-- The pip that a step adds to a tile type, once its names are registered. -/
def pip? (ids : IdentTable) : BuildStep → Option (Nat × Pip)
  | pip tt src dst => some (tt, ⟨src, dst, none, none, .tile, none⟩)
  | sitePip tt src dst place owner =>
    (ids.find? owner).map fun owner => (tt, ⟨src, dst, some place, some owner, .siteInternal, none⟩)
  | _ => none

end BuildStep

/-- How a step changes the tile type that it names. -/
inductive TypeChange (ids : IdentTable) (ty : TileType) : BuildStep → Nat → TileType → Prop
  | wire {tt : Nat} {name intent : String} {n i : Ident} :
    ids.name? n = some name → ids.name? i = some intent →
    TypeChange ids ty (.wire tt name intent) tt
      { ty with wires := ty.wires.push ⟨n, i, none, #[], #[], #[]⟩ }
  | wireSite {tt wire site : Nat} {w : Wire} : ty.wires[wire]? = some w →
    TypeChange ids ty (.wireSite tt wire site) tt
      { ty with wires := ty.wires.setIfInBounds wire { w with site := some site } }
  | pip {s : BuildStep} {tt : Nat} {p : Pip} {wires : Array Wire} {src dst : Wire} :
    s.pip? ids = some (tt, p) → ty.wires[p.src]? = some src →
    wires = ty.wires.setIfInBounds p.src { src with downhill := src.downhill.push ty.pips.size } →
    wires[p.dst]? = some dst →
    TypeChange ids ty s tt
      { ty with
        wires := wires.setIfInBounds p.dst { dst with uphill := dst.uphill.push ty.pips.size }
        pips := ty.pips.push p }
  | bel {tt z : Nat} {name belType : String} {site : Option Nat} {n t : Ident} :
    ids.name? n = some name → ids.name? t = some belType →
    TypeChange ids ty (.bel tt name belType z site) tt
      { ty with bels := ty.bels.push ⟨n, t, z, site, false, #[], none⟩ }
  | belPin {tt bel wire : Nat} {port : String} {dir : PinDir} {p : Ident} {x : Bel} {w : Wire} :
    ids.name? p = some port → ty.bels[bel]? = some x → ty.wires[wire]? = some w →
    TypeChange ids ty (.belPin tt bel port wire dir) tt
      { ty with
        bels := ty.bels.setIfInBounds bel { x with pins := x.pins.push ⟨p, wire, dir⟩ }
        wires := ty.wires.setIfInBounds wire { w with belPins := w.belPins.push ⟨bel, p⟩ } }
  | belRouting {tt bel : Nat} {x : Bel} : ty.bels[bel]? = some x →
    TypeChange ids ty (.belRouting tt bel) tt
      { ty with bels := ty.bels.setIfInBounds bel { x with isRouting := true } }
  | belTiming {tt bel inst : Nat} {x : Bel} : ty.bels[bel]? = some x →
    TypeChange ids ty (.belTiming tt bel inst) tt
      { ty with bels := ty.bels.setIfInBounds bel { x with timingInst := some inst } }
  | timing {tt index : Nat} : (∀ i ∈ ty.timingIndex, i = index) →
    TypeChange ids ty (.timingInstance tt) tt { ty with timingIndex := some index }

namespace BuildStep

def SparesTypes : BuildStep → Prop
  | ident .. | setTile .. | site .. | node .. | cellDelay .. => True
  | _ => False

/-- The wires that a step joins, with the intent of their node. -/
def node? : BuildStep → Option (String × List TileWire)
  | node intent members => some (intent, members)
  | _ => none

def timed : BuildStep → Option Nat
  | timingInstance tt => some tt
  | cellDelay tt .. => some tt
  | _ => none

def SparesTiles : BuildStep → Prop
  | setTile .. | site .. => False
  | _ => True

end BuildStep

/-- What a step makes of the tile types. -/
inductive TypesChange (ids : IdentTable) (types : Array TileType) :
    BuildStep → Array TileType → Prop
  | spare {s : BuildStep} : s.SparesTypes → TypesChange ids types s types
  | add {name : String} {n : Ident} : ids.name? n = some name →
    TypesChange ids types (.tileType name) (types.push { typeName := n })
  | change {s : BuildStep} {tt : Nat} {ty ty' : TileType} : types[tt]? = some ty →
    TypeChange ids ty s tt ty' → TypesChange ids types s (types.setIfInBounds tt ty')

def TimingData.tablesOf : Option TimingData → Array TimingTable
  | some t => t.tables
  | none => #[]

/-- How the joined wires change. -/
inductive NodesChange (ids : IdentTable) (nodes : Array Node) (nodeOf : Std.ExtTreeMap TileWire Nat) :
    BuildStep → Array Node → Std.ExtTreeMap TileWire Nat → Prop
  | spare {s : BuildStep} : s.node? = none → NodesChange ids nodes nodeOf s nodes nodeOf
  | join {intent : String} {members : List TileWire} {i : Ident} : ids.name? i = some intent →
    NodesChange ids nodes nodeOf (.node intent members) (nodes.push ⟨i, members.toArray⟩)
      (members.foldl (fun m w => m.insert w nodes.size) nodeOf)

/-- How the timing tables change, with the tile types at hand. -/
inductive TimingChange (ids : IdentTable) (types : Array TileType) (timing : Option TimingData) :
    BuildStep → Array TileType → Option TimingData → Prop
  | spare {s : BuildStep} {types' : Array TileType} : s.timed = none →
    TimingChange ids types timing s types' timing
  | add {tt index : Nat} {ty : TileType} {tables : Array TimingTable} {table : TimingTable} :
    types[tt]? = some ty →
    (ty.timingIndex = some index ∧ tables = TimingData.tablesOf timing ∨
      ty.timingIndex = none ∧ index = (TimingData.tablesOf timing).size ∧
        tables = (TimingData.tablesOf timing).push ⟨#[]⟩) →
    tables[index]? = some table →
    TimingChange ids types timing (.timingInstance tt)
      (types.setIfInBounds tt { ty with timingIndex := some index })
      (some ⟨tables.setIfInBounds index ⟨table.instances.push ⟨#[]⟩⟩⟩)
  | ignored {tt inst : Nat} {variant fromPort toPort : String} {delay : Int} {ty : TileType} :
    types[tt]? = some ty → ty.timingIndex = none ∨ timing = none →
    TimingChange ids types timing (.cellDelay tt inst variant fromPort toPort delay) types timing
  | arc {tt inst index : Nat} {variant fromPort toPort : String} {delay : Int} {ty : TileType}
      {data : TimingData} {table : TimingTable} {i : InstanceTiming} {v f t : Ident} :
    types[tt]? = some ty → ty.timingIndex = some index → timing = some data →
    data.tables[index]? = some table → table.instances[inst]? = some i →
    ids.name? v = some variant → ids.name? f = some fromPort → ids.name? t = some toPort →
    TimingChange ids types timing (.cellDelay tt inst variant fromPort toPort delay) types
      (some ⟨data.tables.setIfInBounds index ⟨table.instances.setIfInBounds inst
        (ChipBuilder.addArc i v ⟨f, t, delay, delay⟩)⟩⟩)

/-- What a step makes of the tiles of a grid of that width. -/
inductive TilesChange (width : Nat) (tiles : Array Tile) : BuildStep → Array Tile → Prop
  | spare {s : BuildStep} : s.SparesTiles → TilesChange width tiles s tiles
  | set {x y tt : Nat} {name : String} {tile : Tile} : tiles[y * width + x]? = some tile →
    TilesChange width tiles (.setTile x y name tt)
      (tiles.setIfInBounds (y * width + x) { tile with name, tileType := tt })
  | site {t : Nat} {name siteType pin : String} {xy : Option (Nat × Nat)} {tile : Tile} :
    tiles[t]? = some tile →
    TilesChange width tiles (.site t name siteType pin xy) (tiles.setIfInBounds t
      { tile with sites := tile.sites.push ⟨name, siteType, pin, (0, tile.sites.size), xy⟩ })

/-- All that a step changes in the tables that steps refer to. -/
structure StepEffect (b : ChipBuilder) (s : BuildStep) (b' : ChipBuilder) : Prop where
  grid : (b'.width, b'.height) = (b.width, b.height)
  tiles : TilesChange b.width b.tiles s b'.tiles
  ids : b'.ids = b.ids.internAll s.names
  types : TypesChange b'.ids b.tileTypes s b'.tileTypes
  nodes : NodesChange b'.ids b.nodes b.nodeOf s b'.nodes b'.nodeOf
  timing : TimingChange b'.ids b.tileTypes b.timing s b'.tileTypes b'.timing

namespace ChipBuilder

variable {b b' : ChipBuilder} {tt i : Nat}

theorem alterType_eq_ok_iff {change : TileType → TileType} :
    b.alterType tt change = .ok b' ↔ ∃ ty, b.tileTypes[tt]? = some ty ∧
      b' = { b with tileTypes := b.tileTypes.setIfInBounds tt (change ty) } := by
  rw [alterType, bind_eq_ok_iff]
  constructor
  · intro h
    obtain ⟨types, htypes, h⟩ := h
    obtain ⟨ty, hty, rfl⟩ := alter_eq_ok_iff.1 htypes
    exact ⟨ty, hty, (Except.ok.inj h).symm⟩
  · intro h
    obtain ⟨ty, hty, rfl⟩ := h
    exact ⟨_, alter_eq_ok_iff.2 ⟨ty, hty, rfl⟩, rfl⟩

theorem eq_of_alterType {ty : TileType} {change : TileType → TileType}
    (hty : fetch b.tileTypes tt = .ok ty) (h : b.alterType tt change = .ok b') :
    b.tileTypes[tt]? = some ty ∧
      b' = { b with tileTypes := b.tileTypes.setIfInBounds tt (change ty) } := by
  obtain ⟨ty', hty', rfl⟩ := alterType_eq_ok_iff.1 h
  have hty := fetch_eq_ok_iff.1 hty
  obtain rfl : ty = ty' := Option.some.inj (hty.symm.trans hty')
  exact ⟨hty, rfl⟩

/-- A step that only registers names and works on tile types. -/
theorem effect_of_types {s : BuildStep} {ids : IdentTable} {types : Array TileType}
    (hspares : s.SparesTiles) (hnode : s.node? = none) (htimed : s.timed = none)
    (hids : ids = b.ids.internAll s.names) (htypes : TypesChange ids b.tileTypes s types) :
    StepEffect b s { b with ids, tileTypes := types } :=
  ⟨rfl, .spare hspares, hids, htypes, .spare hnode, .spare htimed⟩

theorem addWire_effect {name intent : String} (h : b.addWire tt name intent = .ok (i, b')) :
    StepEffect b (.wire tt name intent) b' := by
  obtain ⟨ty, hty, h⟩ := bind_eq_ok_iff.1 h
  obtain ⟨b₁, hb₁, h⟩ := bind_eq_ok_iff.1 h
  obtain ⟨rfl, rfl⟩ := Prod.mk.inj (Except.ok.inj h)
  obtain ⟨hty, rfl⟩ := eq_of_alterType hty hb₁
  refine effect_of_types trivial rfl rfl rfl (.change hty (.wire ?_ (IdentTable.name?_intern ..)))
  exact IdentTable.name?_intern_of_name? (IdentTable.name?_intern ..)

theorem setWireSite_effect {wire site : Nat} (h : b.setWireSite tt wire site = .ok b') :
    StepEffect b (.wireSite tt wire site) b' := by
  obtain ⟨ty, hty, h⟩ := bind_eq_ok_iff.1 h
  obtain ⟨wires, hwires, h⟩ := bind_eq_ok_iff.1 h
  obtain ⟨w, hw, rfl⟩ := alter_eq_ok_iff.1 hwires
  obtain ⟨hty, rfl⟩ := eq_of_alterType hty h
  exact effect_of_types trivial rfl rfl rfl (.change hty (.wireSite hw))

/-- The name of a pip's bel is registered before the pip is added. -/
theorem addPip_effect {s : BuildStep} {pip : Pip} {ids : IdentTable}
    (hids : ids = b.ids.internAll s.names) (h : { b with ids }.addPip tt pip = .ok (i, b'))
    (hs : s.pip? ids = some (tt, pip)) (hspares : s.SparesTiles) (hnode : s.node? = none)
    (htimed : s.timed = none) : StepEffect b s b' := by
  obtain ⟨ty, hty, h⟩ := bind_eq_ok_iff.1 h
  obtain ⟨wires, hwires, h⟩ := bind_eq_ok_iff.1 h
  obtain ⟨src, hsrc, rfl⟩ := alter_eq_ok_iff.1 hwires
  obtain ⟨wires, hwires, h⟩ := bind_eq_ok_iff.1 h
  obtain ⟨dst, hdst, rfl⟩ := alter_eq_ok_iff.1 hwires
  obtain ⟨b₁, hb₁, h⟩ := bind_eq_ok_iff.1 h
  obtain ⟨rfl, rfl⟩ := Prod.mk.inj (Except.ok.inj h)
  obtain ⟨hty, rfl⟩ := eq_of_alterType hty hb₁
  exact effect_of_types hspares hnode htimed hids (.change hty (.pip hs hsrc rfl hdst))

theorem addBel_effect {name belType : String} {z : Nat} {site : Option Nat}
    (h : b.addBel tt name belType z site = .ok (i, b')) :
    StepEffect b (.bel tt name belType z site) b' := by
  obtain ⟨ty, hty, h⟩ := bind_eq_ok_iff.1 h
  obtain ⟨b₁, hb₁, h⟩ := bind_eq_ok_iff.1 h
  obtain ⟨rfl, rfl⟩ := Prod.mk.inj (Except.ok.inj h)
  obtain ⟨hty, rfl⟩ := eq_of_alterType hty hb₁
  refine effect_of_types trivial rfl rfl rfl (.change hty (.bel ?_ (IdentTable.name?_intern ..)))
  exact IdentTable.name?_intern_of_name? (IdentTable.name?_intern ..)

theorem addBelPin_effect {bel wire : Nat} {port : String} {dir : PinDir}
    (h : b.addBelPin tt bel port wire dir = .ok b') :
    StepEffect b (.belPin tt bel port wire dir) b' := by
  obtain ⟨ty, hty, h⟩ := bind_eq_ok_iff.1 h
  obtain ⟨bels, hbels, h⟩ := bind_eq_ok_iff.1 h
  obtain ⟨x, hx, rfl⟩ := alter_eq_ok_iff.1 hbels
  obtain ⟨wires, hwires, h⟩ := bind_eq_ok_iff.1 h
  obtain ⟨w, hw, rfl⟩ := alter_eq_ok_iff.1 hwires
  obtain ⟨hty, rfl⟩ := eq_of_alterType hty h
  exact effect_of_types trivial rfl rfl rfl
    (.change hty (.belPin (IdentTable.name?_intern ..) hx hw))

theorem alterBel_effect {s : BuildStep} {bel : Nat} {change : Bel → Bel}
    (h : b.alterBel tt bel change = .ok b')
    (hs : ∀ (ty : TileType) x, ty.bels[bel]? = some x →
      TypeChange b.ids ty s tt { ty with bels := ty.bels.setIfInBounds bel (change x) })
    (hspares : s.SparesTiles) (hnames : s.names = []) (hnode : s.node? = none)
    (htimed : s.timed = none) :
    StepEffect b s b' := by
  obtain ⟨ty, hty, h⟩ := bind_eq_ok_iff.1 h
  obtain ⟨bels, hbels, h⟩ := bind_eq_ok_iff.1 h
  obtain ⟨x, hx, rfl⟩ := alter_eq_ok_iff.1 hbels
  obtain ⟨hty, rfl⟩ := eq_of_alterType hty h
  refine effect_of_types hspares hnode htimed ?_ (.change hty (hs ty x hx))
  rw [hnames]
  rfl

theorem addTimingInstance_effect (h : b.addTimingInstance tt = .ok (i, b')) :
    StepEffect b (.timingInstance tt) b' := by
  obtain ⟨ty, hty, h⟩ := bind_eq_ok_iff.1 h
  obtain ⟨table, htable, h⟩ := bind_eq_ok_iff.1 h
  obtain ⟨tables, htables, h⟩ := bind_eq_ok_iff.1 h
  obtain ⟨table', htable', rfl⟩ := alter_eq_ok_iff.1 htables
  obtain ⟨b₁, hb₁, h⟩ := bind_eq_ok_iff.1 h
  obtain ⟨rfl, rfl⟩ := Prod.mk.inj (Except.ok.inj h)
  obtain ⟨hty, rfl⟩ := eq_of_alterType hty hb₁
  cases hindex : ty.timingIndex with
  | some index =>
    simp only [hindex] at htable htable' ⊢
    refine ⟨rfl, .spare trivial, rfl, .change hty (.timing ?_), .spare rfl,
      .add hty (.inl ⟨hindex, rfl⟩) htable'⟩
    simp [hindex]
  | none =>
    simp only [hindex] at htable htable' ⊢
    refine ⟨rfl, .spare trivial, rfl, .change hty (.timing ?_), .spare rfl,
      .add hty (.inr ⟨hindex, rfl, rfl⟩) htable'⟩
    simp [hindex]

theorem addCellDelay_effect {inst : Nat} {variant fromPort toPort : String} {delay : Int}
    (h : b.addCellDelay tt inst variant fromPort toPort delay = .ok b') :
    StepEffect b (.cellDelay tt inst variant fromPort toPort delay) b' := by
  obtain ⟨ty, hty, h⟩ := bind_eq_ok_iff.1 h
  have hty := fetch_eq_ok_iff.1 hty
  split at h
  · next index data hindex hdata =>
    obtain ⟨table, htable, h⟩ := bind_eq_ok_iff.1 h
    obtain ⟨instances, hinstances, h⟩ := bind_eq_ok_iff.1 h
    obtain ⟨entry, hentry, rfl⟩ := alter_eq_ok_iff.1 hinstances
    obtain ⟨tables, htables, h⟩ := bind_eq_ok_iff.1 h
    obtain ⟨table', htable', rfl⟩ := alter_eq_ok_iff.1 htables
    obtain rfl := Except.ok.inj h
    refine ⟨rfl, .spare trivial, rfl, .spare trivial, .spare rfl, .arc hty hindex hdata
      (fetch_eq_ok_iff.1 htable) hentry ?_ ?_ (IdentTable.name?_intern ..)⟩
    · exact IdentTable.name?_intern_of_name?
        (IdentTable.name?_intern_of_name? (IdentTable.name?_intern ..))
    · exact IdentTable.name?_intern_of_name? (IdentTable.name?_intern ..)
  · next hnone =>
    obtain rfl := Except.ok.inj h
    refine ⟨rfl, .spare trivial, rfl, .spare trivial, .spare rfl, .ignored hty ?_⟩
    cases hindex : ty.timingIndex with
    | none => exact .inl rfl
    | some index =>
      cases hdata : b.timing with
      | none => exact .inr rfl
      | some data => exact (hnone index data hindex hdata).elim

theorem step_effect {s : BuildStep} {out : Option Nat} (h : b.step s = .ok (out, b')) :
    StepEffect b s b' := by
  cases s with
  | ident name =>
    obtain ⟨rfl, rfl⟩ := Prod.mk.inj (Except.ok.inj h)
    exact effect_of_types trivial rfl rfl rfl (.spare trivial)
  | tileType name =>
    obtain ⟨rfl, rfl⟩ := Prod.mk.inj (Except.ok.inj h)
    exact effect_of_types trivial rfl rfl rfl (.add (IdentTable.name?_intern ..))
  | node intent members =>
    obtain ⟨rfl, rfl⟩ := Prod.mk.inj (Except.ok.inj h)
    exact ⟨rfl, .spare trivial, rfl, .spare trivial, .join (IdentTable.name?_intern ..), .spare rfl⟩
  | wire tt name intent =>
    obtain ⟨⟨i, b₁⟩, hb₁, h⟩ := bind_eq_ok_iff.1 h
    obtain ⟨rfl, rfl⟩ := Prod.mk.inj (Except.ok.inj h)
    exact addWire_effect hb₁
  | wireSite tt wire site =>
    obtain ⟨b₁, hb₁, h⟩ := bind_eq_ok_iff.1 h
    obtain ⟨rfl, rfl⟩ := Prod.mk.inj (Except.ok.inj h)
    exact setWireSite_effect hb₁
  | pip tt src dst =>
    obtain ⟨⟨i, b₁⟩, hb₁, h⟩ := bind_eq_ok_iff.1 h
    obtain ⟨rfl, rfl⟩ := Prod.mk.inj (Except.ok.inj h)
    exact addPip_effect rfl hb₁ rfl trivial rfl rfl
  | sitePip tt src dst site bel =>
    obtain ⟨⟨i, b₁⟩, hb₁, h⟩ := bind_eq_ok_iff.1 h
    obtain ⟨rfl, rfl⟩ := Prod.mk.inj (Except.ok.inj h)
    have hfound : (b.ids.intern bel).2.find? bel = some (b.ids.intern bel).1 :=
      IdentTable.find?_intern ..
    exact addPip_effect rfl hb₁ (congrArg (Option.map _) hfound) trivial rfl rfl
  | bel tt name belType z site =>
    obtain ⟨⟨i, b₁⟩, hb₁, h⟩ := bind_eq_ok_iff.1 h
    obtain ⟨rfl, rfl⟩ := Prod.mk.inj (Except.ok.inj h)
    exact addBel_effect hb₁
  | belPin tt bel port wire dir =>
    obtain ⟨b₁, hb₁, h⟩ := bind_eq_ok_iff.1 h
    obtain ⟨rfl, rfl⟩ := Prod.mk.inj (Except.ok.inj h)
    exact addBelPin_effect hb₁
  | belRouting tt bel =>
    obtain ⟨b₁, hb₁, h⟩ := bind_eq_ok_iff.1 h
    obtain ⟨rfl, rfl⟩ := Prod.mk.inj (Except.ok.inj h)
    exact alterBel_effect hb₁ (fun _ _ => .belRouting) trivial rfl rfl rfl
  | setTile x y name tt =>
    obtain ⟨⟨i, b₁⟩, hb₁, h⟩ := bind_eq_ok_iff.1 h
    obtain ⟨rfl, rfl⟩ := Prod.mk.inj (Except.ok.inj h)
    obtain ⟨tiles, htiles, hb₁⟩ := bind_eq_ok_iff.1 hb₁
    obtain ⟨rfl, rfl⟩ := Prod.mk.inj (Except.ok.inj hb₁)
    obtain ⟨tile, htile, rfl⟩ := alter_eq_ok_iff.1 htiles
    exact ⟨rfl, .set htile, rfl, .spare trivial, .spare rfl, .spare rfl⟩
  | site t name siteType pin xy =>
    obtain ⟨⟨i, b₁⟩, hb₁, h⟩ := bind_eq_ok_iff.1 h
    obtain ⟨rfl, rfl⟩ := Prod.mk.inj (Except.ok.inj h)
    obtain ⟨tile, htile, hb₁⟩ := bind_eq_ok_iff.1 hb₁
    obtain ⟨tiles, htiles, hb₁⟩ := bind_eq_ok_iff.1 hb₁
    obtain ⟨rfl, rfl⟩ := Prod.mk.inj (Except.ok.inj hb₁)
    obtain ⟨same, hsame, rfl⟩ := alter_eq_ok_iff.1 htiles
    obtain rfl := Option.some.inj (hsame.symm.trans (fetch_eq_ok_iff.1 htile))
    exact ⟨rfl, .site hsame, rfl, .spare trivial, .spare rfl, .spare rfl⟩
  | timingInstance tt =>
    obtain ⟨⟨i, b₁⟩, hb₁, h⟩ := bind_eq_ok_iff.1 h
    obtain ⟨rfl, rfl⟩ := Prod.mk.inj (Except.ok.inj h)
    exact addTimingInstance_effect hb₁
  | belTiming tt bel inst =>
    obtain ⟨b₁, hb₁, h⟩ := bind_eq_ok_iff.1 h
    obtain ⟨rfl, rfl⟩ := Prod.mk.inj (Except.ok.inj h)
    exact alterBel_effect hb₁ (fun _ _ => .belTiming) trivial rfl rfl rfl
  | cellDelay tt inst variant fromPort toPort delay =>
    obtain ⟨b₁, hb₁, h⟩ := bind_eq_ok_iff.1 h
    obtain ⟨rfl, rfl⟩ := Prod.mk.inj (Except.ok.inj h)
    exact addCellDelay_effect hb₁

theorem run_keeps_from {I : List BuildStep → ChipBuilder → Prop} {before steps : List BuildStep}
    {outs : List (Option Nat)}
    (hstep : ∀ before b s b', I before b → StepEffect b s b' → I (before ++ [s]) b')
    (hb : I before b) (h : b.run steps = .ok (outs, b')) : I (before ++ steps) b' := by
  induction steps generalizing before b outs with
  | nil =>
    obtain ⟨rfl, rfl⟩ := Prod.mk.inj (Except.ok.inj h)
    rwa [List.append_nil]
  | cons s steps ih =>
    obtain ⟨⟨out, b₁⟩, hb₁, h⟩ := bind_eq_ok_iff.1 h
    obtain ⟨⟨outs', b₂⟩, hb₂, h⟩ := bind_eq_ok_iff.1 h
    obtain ⟨rfl, rfl⟩ := Prod.mk.inj (Except.ok.inj h)
    have hnext := ih (hstep before b s b₁ hb (step_effect hb₁)) hb₂
    rwa [List.append_assoc] at hnext

/-- What holds at the start and is kept by each step, with the steps made so far, holds at the end. -/
theorem run_keeps (I : List BuildStep → ChipBuilder → Prop) {steps : List BuildStep}
    {outs : List (Option Nat)}
    (hstep : ∀ before b s b', I before b → StepEffect b s b' → I (before ++ [s]) b')
    (hb : I [] b) (h : b.run steps = .ok (outs, b')) : I steps b' :=
  run_keeps_from hstep hb h

end ChipBuilder
end Interconnect
