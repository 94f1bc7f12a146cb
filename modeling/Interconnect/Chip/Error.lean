import Interconnect.ContentHash
import Interconnect.Ident.Known
/-!
# Refused chip files
-/
namespace Interconnect

/-- What is wrong with the tables of a record. -/
inductive Malformation where
  | identifier (user : String) (id limit : Nat)
  | tileCount (tiles width height : Nat)
  | timingTable (tileType index tables : Nat)
  | pinWire (user : String) (wire : Nat)
  | timingInstance (user : String) (index : Nat)
  | pipReference (user : String) (pip : Nat)
  | belReference (user : String) (bel : Nat)
  | pipWires (pip tileType src dst wires : Nat)
  | tileType (tile tileType : Nat)
  | wireMap (tile mapped wires : Nat)
  | nodeReference (tile node : Nat)
  | siteReference (tile sites site : Nat)
  | emptyNode (node : Nat)
  | nodeMember (node tile index : Nat)
  deriving DecidableEq, Repr

def Malformation.text : Malformation → String
  | identifier user id limit => s!"{user} uses identifier {id} beyond the table of {limit}"
  | tileCount n w h => s!"{n} tiles for a {w}x{h} grid"
  | timingTable tt i n => s!"tile type {tt} references timing table {i} of {n}"
  | pinWire user w => s!"{user} pin wire {w} out of range"
  | timingInstance user i => s!"{user} timing instance {i} out of range"
  | pipReference user p => s!"{user} references pip {p}"
  | belReference user b => s!"{user} references bel {b}"
  | pipWires p tt s d n => s!"pip {p} of tile type {tt} connects {s} -> {d} with {n} wires"
  | tileType t tt => s!"tile {t} references tile type {tt}"
  | wireMap t m n => s!"tile {t} maps {m} wires to nodes, its type has {n}"
  | nodeReference t n => s!"tile {t} references node {n}"
  | siteReference t n s => s!"tile {t} has {n} sites, its type references site {s}"
  | emptyNode n => s!"node {n} has no member wires"
  | nodeMember n t i => s!"node {n} member ({t}, {i}) out of range"

inductive ChipError where
  /-- The file could not be read or unpacked. -/
  | unreadable (path reason : String)
  | badMagic
  | truncated (size : Nat)
  | version (found : Nat)
  | checksum (stored actual : ContentHash)
  /-- The payload is no chip record. -/
  | payload
  /-- The record counts on another number of known identifiers. -/
  | knownIdCount (found : Nat)
  /-- A name of the record is registered already. -/
  | duplicateId (name : String) (place registered : Nat)
  | malformed (reason : Malformation)
  deriving DecidableEq, Repr

def formatVersion : Nat := 1

def ChipError.message : ChipError → String
  | unreadable path reason => s!"unable to read chipdb {path}: {reason}"
  | badMagic => "not a chip database (bad magic)"
  | truncated n => s!"chip database truncated: {n} bytes"
  | version found =>
    s!"chip database format version mismatch: expected {formatVersion}, got {found}"
  | checksum stored actual =>
    s!"chip database checksum mismatch: expected {stored.toHex}, got {actual.toHex}"
  | payload => "chip database serialization error: unexpected payload"
  | knownIdCount found => "chip database identifier table mismatch: " ++
      s!"database built against {found} known identifiers, this build has {Known.count}"
  | duplicateId name place registered => "chip database identifier table mismatch: " ++
      s!"identifier '{name}' expected at index {place}, already registered at {registered}"
  | malformed reason => s!"malformed chip database: {reason.text}"

end Interconnect
