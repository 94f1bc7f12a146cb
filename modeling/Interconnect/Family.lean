/-!
# Device families

Two families differ in delay scale, in the cell timing they carry, in the pips they exclude and in
the name of a register's clock port.
-/
namespace Interconnect

inductive Family where
  /-- The 7-series. -/
  | xc7
  /-- UltraScale and UltraScale+. -/
  | ultraScale
  deriving DecidableEq, Repr

namespace Family

/-- A part whose name starts with "xc7" is of the 7-series; every other one is UltraScale. -/
def ofPartName (name : String) : Family :=
  if "xc7".isPrefixOf name then .xc7 else .ultraScale

def label : Family → String
  | .xc7 => "xc7"
  | .ultraScale => "ultrascale"

/-- The family's name inside a structured summary. -/
def tag : Family → String
  | .xc7 => "Xc7"
  | .ultraScale => "UltraScale"

end Family
end Interconnect
