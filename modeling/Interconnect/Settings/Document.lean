import Interconnect.Settings.Basic
import Interconnect.Toml.Document
/-!
# Settings documents

Run settings are written as a TOML document with a table for the device and one each for placement,
routing and the estimator. Whatever has a default may be left out, and unknown keys do not matter.
-/
namespace Interconnect.Settings

open Toml

/-- A table's fields, by name, or by place if it is given as a list of them. -/
structure Fields where
  field? : String → Nat → Option Value

/-- The fields of a value. Dates stand for tables without any field that is known. -/
def Fields.ofValue? : Value → Option Fields
  | .table _ entries => some ⟨fun name _ => entries.lookup name⟩
  | .list values => some ⟨fun _ i => values[i]?⟩
  | .tables last before =>
    some ⟨fun _ i => ((last :: before).reverse[i]?).map (Value.table .header ·)⟩
  | .moment => some ⟨fun _ _ => none⟩
  | _ => none

def group (top : Entries) (name : String) : Option Fields :=
  match top.lookup name with
  | some v => Fields.ofValue? v
  | none => some ⟨fun _ _ => none⟩

def text : Value → Option String
  | .text s => some s
  | _ => none

def integer (least greatest : Int) : Value → Option Int
  | .integer i => if least ≤ i ∧ i ≤ greatest then some i else none
  | _ => none

def signed32 : Value → Option Int := integer (-2147483648) 2147483647

def unsigned32 (v : Value) : Option Nat := (integer 0 4294967295 v).map Int.toNat

/-- A field, or the default of one that is left out. -/
def Fields.read {α : Type} (f : Fields) (name : String) (place : Nat) (read : Value → Option α)
    (default : α) : Option α :=
  match f.field? name place with
  | some v => read v
  | none => some default

/-- The settings of a document. The file of the device has no default. -/
def ofEntries? (top : Entries) : Option RunSettings := do
  let device ← group top "device"
  let place ← group top "place"
  let route ← group top "route"
  let estimator ← group top "estimator"
  let standard : EstimatorTuning := {}
  return {
    chipFile := ← (device.field? "chipdb" 0).bind text
    placer := ← place.read "placer" 0 text PlacerKind.sa.name
    ripupPenalty := ← route.read "ripup_delay_penalty" 0 signed32 250
    estimator := {
      clusterBels := ← estimator.read "cluster_bels" 0 unsigned32 standard.clusterBels
      boxThreshold := ← estimator.read "bbox_cost_threshold" 1 signed32 standard.boxThreshold
      boxCostPerUnit := ← estimator.read "bbox_cost_per_unit" 2 signed32 standard.boxCostPerUnit } }

/-- The checked settings of a document's text. -/
def ofText (s : String) : Except SettingsError RunSettings :=
  match Document.parse? s with
  | none => .error (.syntaxError "not a well-formed document")
  | some top => match ofEntries? top with
    | none => .error (.syntaxError "a setting is missing or has a value of the wrong kind")
    | some settings => settings.check.map fun _ => settings

end Interconnect.Settings
