import Interconnect.Chip.Record
import Interconnect.Codec
/-!
# The payload of a chip file

A chip record as bytes: the fields of each structure in order, with nothing between them.
-/
namespace Interconnect

open Codec (nat int bool text option array pair oneOf)

namespace Payload

def pinDir : Codec PinDir := oneOf [.input, .output, .inout]

def pipKind : Codec PipKind := oneOf [.tile, .siteInternal, .siteEntry, .siteExit]

def belPin : Codec BelPin :=
  (pair nat (pair nat pinDir)).through (fun p => (p.port, p.wire, p.dir)) fun (p, w, d) => ⟨p, w, d⟩

def bel : Codec Bel :=
  (pair nat (pair nat (pair nat (pair (option nat) (pair bool (pair (array belPin)
    (option nat))))))).through
    (fun b => (b.name, b.belType, b.z, b.site, b.isRouting, b.pins, b.timingInst))
    fun (n, t, z, s, r, p, i) => ⟨n, t, z, s, r, p, i⟩

def belPinRef : Codec BelPinRef :=
  (pair nat nat).through (fun p => (p.bel, p.port)) fun (b, p) => ⟨b, p⟩

def wire : Codec Wire :=
  (pair nat (pair nat (pair (option nat) (pair (array nat) (pair (array nat)
    (array belPinRef)))))).through
    (fun w => (w.name, w.intent, w.site, w.uphill, w.downhill, w.belPins))
    fun (n, i, s, u, d, p) => ⟨n, i, s, u, d, p⟩

def pip : Codec Pip :=
  (pair nat (pair nat (pair (option nat) (pair (option nat) (pair pipKind (option nat)))))).through
    (fun p => (p.src, p.dst, p.site, p.bel, p.kind, p.siteVariant))
    fun (s, d, site, b, k, v) => ⟨s, d, site, b, k, v⟩

def tileType : Codec TileType :=
  (pair nat (pair (array bel) (pair (array wire) (pair (array pip) (option nat))))).through
    (fun t => (t.typeName, t.bels, t.wires, t.pips, t.timingIndex))
    fun (n, b, w, p, t) => ⟨n, b, w, p, t⟩

def site : Codec Site :=
  (pair text (pair text (pair text (pair (pair int int) (option (pair nat nat)))))).through
    (fun s => (s.name, s.siteType, s.pin, s.siteXY, s.interXY))
    fun (n, t, p, xy, i) => ⟨n, t, p, xy, i⟩

def tile : Codec Tile :=
  (pair text (pair nat (pair (array site) (array (option nat))))).through
    (fun t => (t.name, t.tileType, t.sites, t.wireToNode))
    fun (n, t, s, w) => ⟨n, t, s, w⟩

def tileWire : Codec TileWire :=
  (pair nat nat).through (fun w => (w.tile, w.index)) fun (t, i) => ⟨t, i⟩

def node : Codec Node :=
  (pair nat (array tileWire)).through (fun n => (n.intent, n.tileWires)) fun (i, w) => ⟨i, w⟩

def arcDelay : Codec ArcDelay :=
  (pair nat (pair nat (pair int int))).through
    (fun d => (d.fromPort, d.toPort, d.minDelay, d.maxDelay))
    fun (f, t, a, b) => ⟨f, t, a, b⟩

def cellTiming : Codec CellTiming :=
  (pair nat (array arcDelay)).through (fun c => (c.variant, c.delays)) fun (v, d) => ⟨v, d⟩

def instanceTiming : Codec InstanceTiming := (array cellTiming).through (·.cellTypes) (⟨·⟩)

def timingTable : Codec TimingTable := (array instanceTiming).through (·.instances) (⟨·⟩)

def timingData : Codec TimingData := (array timingTable).through (·.tables) (⟨·⟩)

def chipRecord : Codec ChipRecord :=
  (pair text (pair text (pair nat (pair nat (pair nat (pair (array text) (pair (array tileType)
    (pair (array tile) (pair (array node) (option timingData)))))))))).through
    (fun c => (c.name, c.generator, c.width, c.height, c.knownIdCount, c.extraIds, c.tileTypes,
      c.tiles, c.nodes, c.timing))
    fun (n, g, w, h, k, e, tt, t, no, ti) => ⟨n, g, w, h, k, e, tt, t, no, ti⟩

end Payload
end Interconnect
