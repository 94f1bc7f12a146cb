import Interconnect.Ident.Table
/-!
# Known identifiers

Names with a fixed number. They come first in every identifier table, in the order given here, so a
program can compare a number from a record with one of them without looking a name up.
-/
namespace Interconnect.Known

def intents : List String :=
  ["INTENT_DEFAULT", "NODE_DOUBLE", "NODE_HLONG", "NODE_HQUAD", "NODE_VLONG", "NODE_VQUAD",
   "NODE_SINGLE", "NODE_CLE_OUTPUT", "NODE_OPTDELAY", "NODE_PINFEED", "NODE_PINBOUNCE",
   "NODE_LOCAL", "NODE_DEDICATED", "NODE_OUTPUT", "NODE_GLOBAL_BUFG", "NODE_GLOBAL_HROUTE",
   "NODE_GLOBAL_VROUTE", "NODE_GLOBAL_HDISTR", "NODE_GLOBAL_VDISTR", "NODE_GLOBAL_LEAF",
   "BENTQUAD", "DOUBLE", "HLONG", "HQUAD", "OPTDELAY", "SINGLE", "VLONG", "VLONG12", "VQUAD",
   "PINBOUNCE", "PINFEED", "INPUT", "OUTPUT"]

/-- Intents, and bel types, of the constant drivers. -/
def constantDrivers : List String :=
  ["PSEUDO_GND", "PSEUDO_VCC"]

def cellTypes : List String :=
  ["SLICE_LUTX", "SLICE_FFX", "CARRY4", "F7MUX", "F8MUX", "F9MUX", "SELMUX2_1", "BUFGCTRL",
   "BUFCE_BUFG_PS", "BUFCE_BUFCE", "BUFGCE_DIV_BUFGCE_DIV", "IOB_IBUFCTRL", "IOB_OUTBUF", "PAD"]

def timingVariants : List String :=
  ["LUT5", "LUT6", "LUT_OR_MEM5LRAM", "LUT_OR_MEM6LRAM"]

def ports : List String :=
  ["A1", "A2", "A3", "A4", "A5", "A6", "O5", "O6", "CLK", "CK", "CE", "SR", "D", "Q", "I", "I0",
   "I1", "O", "OUT"]

/-- Types of tiles that hold logic slices next to their interconnect. -/
def logicTileTypes : List String :=
  ["CLBLL_L", "CLBLL_R", "CLBLM_L", "CLBLM_R", "CLEL_L", "CLEL_R", "CLEM", "CLEM_R"]

def wireNames : List String :=
  ["PSEUDO_GND_WIRE_GLBL", "PSEUDO_VCC_WIRE_GLBL", "PSEUDO_GND_WIRE_ROW", "PSEUDO_VCC_WIRE_ROW",
   "IOI_IOCLK0", "IOI_SING_IOCLK0"]

/-- All known names, each at its number. -/
def names : List String :=
  intents ++ constantDrivers ++ cellTypes ++ timingVariants ++ ports ++ logicTileTypes ++ wireNames

def count : Nat := names.length

def ident (name : String) : Ident := names.idxOf name

def name? (i : Ident) : Option String := names[i]?

/-- The table that holds the known names and nothing else. -/
def table : IdentTable := IdentTable.empty.internAll names

theorem names_nodup : names.Nodup := by decide +kernel

theorem name?_ident {name : String} (h : name ∈ names) : name? (ident name) = some name := by
  have hlt : names.idxOf name < names.length := List.idxOf_lt_length_iff.2 h
  rw [name?, ident, List.getElem?_eq_getElem hlt, List.getElem_idxOf]

theorem ident_lt_count {name : String} (h : name ∈ names) : ident name < count :=
  List.idxOf_lt_length_iff.2 h

end Interconnect.Known
