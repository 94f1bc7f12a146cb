import Interconnect.Chip.Payload
import Interconnect.Proofs.Format.Codec
import Mathlib.Tactic.MkIffOfInductiveProp
/-!
# Payloads read back

A chip record fits a file when its numbers fit their words, its tables their lengths and its texts
the memory. Nothing else is asked of it: its references may lead nowhere, and a refused record has a
payload too. The payload of a record that fits is read back as that record.
-/
namespace Interconnect

open Codec (NatFits TextFits OptionFits TableFits)

@[mk_iff] structure BelPin.Fits (p : BelPin) : Prop where
  port : NatFits p.port
  wire : NatFits p.wire

instance (p : BelPin) : Decidable p.Fits := decidable_of_iff' _ (BelPin.fits_iff p)

@[mk_iff] structure Bel.Fits (b : Bel) : Prop where
  name : NatFits b.name
  belType : NatFits b.belType
  z : NatFits b.z
  site : OptionFits NatFits b.site
  pins : TableFits BelPin.Fits b.pins
  timingInst : OptionFits NatFits b.timingInst

instance (b : Bel) : Decidable b.Fits := decidable_of_iff' _ (Bel.fits_iff b)

@[mk_iff] structure BelPinRef.Fits (p : BelPinRef) : Prop where
  bel : NatFits p.bel
  port : NatFits p.port

instance (p : BelPinRef) : Decidable p.Fits := decidable_of_iff' _ (BelPinRef.fits_iff p)

@[mk_iff] structure Wire.Fits (w : Wire) : Prop where
  name : NatFits w.name
  intent : NatFits w.intent
  site : OptionFits NatFits w.site
  uphill : TableFits NatFits w.uphill
  downhill : TableFits NatFits w.downhill
  belPins : TableFits BelPinRef.Fits w.belPins

instance (w : Wire) : Decidable w.Fits := decidable_of_iff' _ (Wire.fits_iff w)

@[mk_iff] structure Pip.Fits (p : Pip) : Prop where
  src : NatFits p.src
  dst : NatFits p.dst
  site : OptionFits NatFits p.site
  bel : OptionFits NatFits p.bel
  siteVariant : OptionFits NatFits p.siteVariant

instance (p : Pip) : Decidable p.Fits := decidable_of_iff' _ (Pip.fits_iff p)

@[mk_iff] structure TileType.Fits (t : TileType) : Prop where
  typeName : NatFits t.typeName
  bels : TableFits Bel.Fits t.bels
  wires : TableFits Wire.Fits t.wires
  pips : TableFits Pip.Fits t.pips
  timingIndex : OptionFits NatFits t.timingIndex

instance (t : TileType) : Decidable t.Fits := decidable_of_iff' _ (TileType.fits_iff t)

def PointFits (p : Nat × Nat) : Prop := NatFits p.1 ∧ NatFits p.2

instance (p : Nat × Nat) : Decidable (PointFits p) := inferInstanceAs (Decidable (_ ∧ _))

@[mk_iff] structure Site.Fits (s : Site) : Prop where
  name : TextFits s.name
  siteType : TextFits s.siteType
  pin : TextFits s.pin
  siteX : FitsWord s.siteXY.1
  siteY : FitsWord s.siteXY.2
  interXY : OptionFits PointFits s.interXY

instance (s : Site) : Decidable s.Fits := decidable_of_iff' _ (Site.fits_iff s)

@[mk_iff] structure Tile.Fits (t : Tile) : Prop where
  name : TextFits t.name
  tileType : NatFits t.tileType
  sites : TableFits Site.Fits t.sites
  wireToNode : TableFits (OptionFits NatFits) t.wireToNode

instance (t : Tile) : Decidable t.Fits := decidable_of_iff' _ (Tile.fits_iff t)

@[mk_iff] structure TileWire.Fits (w : TileWire) : Prop where
  tile : NatFits w.tile
  index : NatFits w.index

instance (w : TileWire) : Decidable w.Fits := decidable_of_iff' _ (TileWire.fits_iff w)

@[mk_iff] structure Node.Fits (n : Node) : Prop where
  intent : NatFits n.intent
  tileWires : TableFits TileWire.Fits n.tileWires

instance (n : Node) : Decidable n.Fits := decidable_of_iff' _ (Node.fits_iff n)

@[mk_iff] structure ArcDelay.Fits (d : ArcDelay) : Prop where
  fromPort : NatFits d.fromPort
  toPort : NatFits d.toPort
  minDelay : FitsWord d.minDelay
  maxDelay : FitsWord d.maxDelay

instance (d : ArcDelay) : Decidable d.Fits := decidable_of_iff' _ (ArcDelay.fits_iff d)

@[mk_iff] structure CellTiming.Fits (c : CellTiming) : Prop where
  variant : NatFits c.variant
  delays : TableFits ArcDelay.Fits c.delays

instance (c : CellTiming) : Decidable c.Fits := decidable_of_iff' _ (CellTiming.fits_iff c)

def InstanceTiming.Fits (i : InstanceTiming) : Prop := TableFits CellTiming.Fits i.cellTypes

instance : DecidablePred InstanceTiming.Fits := fun i =>
  inferInstanceAs (Decidable (TableFits CellTiming.Fits i.cellTypes))

def TimingTable.Fits (t : TimingTable) : Prop := TableFits InstanceTiming.Fits t.instances

instance : DecidablePred TimingTable.Fits := fun t =>
  inferInstanceAs (Decidable (TableFits InstanceTiming.Fits t.instances))

def TimingData.Fits (t : TimingData) : Prop := TableFits TimingTable.Fits t.tables

instance : DecidablePred TimingData.Fits := fun t =>
  inferInstanceAs (Decidable (TableFits TimingTable.Fits t.tables))

/-- The record's numbers, tables and texts are no larger than a file can say. -/
@[mk_iff] structure ChipRecord.Fits (r : ChipRecord) : Prop where
  name : TextFits r.name
  generator : TextFits r.generator
  width : NatFits r.width
  height : NatFits r.height
  knownIdCount : NatFits r.knownIdCount
  extraIds : TableFits TextFits r.extraIds
  tileTypes : TableFits TileType.Fits r.tileTypes
  tiles : TableFits Tile.Fits r.tiles
  nodes : TableFits Node.Fits r.nodes
  timing : OptionFits TimingData.Fits r.timing

instance (r : ChipRecord) : Decidable r.Fits := decidable_of_iff' _ (ChipRecord.fits_iff r)

namespace Payload

open Codec

theorem pinDir_readsBack : pinDir.ReadsBack fun _ => True := by
  intro d _
  exact oneOf_readsBack (by decide) d (by cases d <;> decide)

theorem pipKind_readsBack : pipKind.ReadsBack fun _ => True := by
  intro k _
  exact oneOf_readsBack (by decide) k (by cases k <;> decide)

theorem belPin_readsBack : belPin.ReadsBack BelPin.Fits :=
  (nat_readsBack.pair (nat_readsBack.pair pinDir_readsBack)).through
    (fun _ h => ⟨h.port, h.wire, trivial⟩) fun _ => rfl

theorem bel_readsBack : bel.ReadsBack Bel.Fits :=
  (nat_readsBack.pair (nat_readsBack.pair (nat_readsBack.pair (nat_readsBack.option.pair
    (bool_readsBack.pair (belPin_readsBack.array.pair nat_readsBack.option)))))).through
    (fun _ h => ⟨h.name, h.belType, h.z, h.site, trivial, h.pins, h.timingInst⟩) fun _ => rfl

theorem belPinRef_readsBack : belPinRef.ReadsBack BelPinRef.Fits :=
  (nat_readsBack.pair nat_readsBack).through (fun _ h => ⟨h.bel, h.port⟩) fun _ => rfl

theorem wire_readsBack : wire.ReadsBack Wire.Fits :=
  (nat_readsBack.pair (nat_readsBack.pair (nat_readsBack.option.pair (nat_readsBack.array.pair
    (nat_readsBack.array.pair belPinRef_readsBack.array))))).through
    (fun _ h => ⟨h.name, h.intent, h.site, h.uphill, h.downhill, h.belPins⟩) fun _ => rfl

theorem pip_readsBack : pip.ReadsBack Pip.Fits :=
  (nat_readsBack.pair (nat_readsBack.pair (nat_readsBack.option.pair (nat_readsBack.option.pair
    (pipKind_readsBack.pair nat_readsBack.option))))).through
    (fun _ h => ⟨h.src, h.dst, h.site, h.bel, trivial, h.siteVariant⟩) fun _ => rfl

theorem tileType_readsBack : tileType.ReadsBack TileType.Fits :=
  (nat_readsBack.pair (bel_readsBack.array.pair (wire_readsBack.array.pair
    (pip_readsBack.array.pair nat_readsBack.option)))).through
    (fun _ h => ⟨h.typeName, h.bels, h.wires, h.pips, h.timingIndex⟩) fun _ => rfl

theorem site_readsBack : site.ReadsBack Site.Fits :=
  (text_readsBack.pair (text_readsBack.pair (text_readsBack.pair
    ((int_readsBack.pair int_readsBack).pair (nat_readsBack.pair nat_readsBack).option)))).through
    (fun _ h => ⟨h.name, h.siteType, h.pin, ⟨h.siteX, h.siteY⟩, h.interXY⟩) fun _ => rfl

theorem tile_readsBack : tile.ReadsBack Tile.Fits :=
  (text_readsBack.pair (nat_readsBack.pair (site_readsBack.array.pair
    nat_readsBack.option.array))).through
    (fun _ h => ⟨h.name, h.tileType, h.sites, h.wireToNode⟩) fun _ => rfl

theorem tileWire_readsBack : tileWire.ReadsBack TileWire.Fits :=
  (nat_readsBack.pair nat_readsBack).through (fun _ h => ⟨h.tile, h.index⟩) fun _ => rfl

theorem node_readsBack : node.ReadsBack Node.Fits :=
  (nat_readsBack.pair tileWire_readsBack.array).through
    (fun _ h => ⟨h.intent, h.tileWires⟩) fun _ => rfl

theorem arcDelay_readsBack : arcDelay.ReadsBack ArcDelay.Fits :=
  (nat_readsBack.pair (nat_readsBack.pair (int_readsBack.pair int_readsBack))).through
    (fun _ h => ⟨h.fromPort, h.toPort, h.minDelay, h.maxDelay⟩) fun _ => rfl

theorem cellTiming_readsBack : cellTiming.ReadsBack CellTiming.Fits :=
  (nat_readsBack.pair arcDelay_readsBack.array).through
    (fun _ h => ⟨h.variant, h.delays⟩) fun _ => rfl

theorem instanceTiming_readsBack : instanceTiming.ReadsBack InstanceTiming.Fits :=
  cellTiming_readsBack.array.through (fun _ h => h) fun _ => rfl

theorem timingTable_readsBack : timingTable.ReadsBack TimingTable.Fits :=
  instanceTiming_readsBack.array.through (fun _ h => h) fun _ => rfl

theorem timingData_readsBack : timingData.ReadsBack TimingData.Fits :=
  timingTable_readsBack.array.through (fun _ h => h) fun _ => rfl

theorem chipRecord_readsBack : chipRecord.ReadsBack ChipRecord.Fits :=
  (text_readsBack.pair (text_readsBack.pair (nat_readsBack.pair (nat_readsBack.pair
    (nat_readsBack.pair (text_readsBack.array.pair (tileType_readsBack.array.pair
    (tile_readsBack.array.pair (node_readsBack.array.pair
    timingData_readsBack.option))))))))).through
    (fun _ h => ⟨h.name, h.generator, h.width, h.height, h.knownIdCount, h.extraIds, h.tileTypes,
      h.tiles, h.nodes, h.timing⟩) fun _ => rfl

end Payload
end Interconnect
