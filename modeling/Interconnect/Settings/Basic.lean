/-!
# Run settings

What a run may choose: the chip file, the placer, the penalty of ripping up a route, and the tuning
of the delay estimates. Settings are checked before use.
-/
namespace Interconnect

inductive PlacerKind where
  /-- Simulated annealing. -/
  | sa
  /-- Analytical placement. -/
  | heap
  deriving DecidableEq, Repr

inductive SettingsError where
  | unreadable (reason : String)
  | syntaxError (reason : String)
  | missingField (field : String)
  | unknownPlacer (name : String)
  | invalid (rule : String)
  deriving DecidableEq, Repr

def SettingsError.message : SettingsError → String
  | unreadable reason => s!"failed to read configuration: {reason}"
  | syntaxError reason => s!"failed to parse configuration: {reason}"
  | missingField field => s!"missing required field: {field}"
  | unknownPlacer name => s!"unknown placer '{name}' (expected \"sa\" or \"heap\")"
  | invalid rule => s!"validation error: {rule}"

namespace PlacerKind

def name : PlacerKind → String
  | sa => "sa"
  | heap => "heap"

def ofName (name : String) : Except SettingsError PlacerKind :=
  if name = "sa" then .ok sa
  else if name = "heap" then .ok heap
  else .error (.unknownPlacer name)

end PlacerKind

structure EstimatorTuning where
  /-- Bels of a tile that count as one cluster. -/
  clusterBels : Nat := 16
  /-- How far a route may leave its box for free. -/
  boxThreshold : Int := 5
  /-- The price of every step beyond. -/
  boxCostPerUnit : Int := 0
  deriving DecidableEq, Repr

structure RunSettings where
  chipFile : String
  placer : String := PlacerKind.sa.name
  ripupPenalty : Int := 250
  estimator : EstimatorTuning := {}
  deriving DecidableEq, Repr

namespace RunSettings

/-- Refuses the first setting that makes no sense. -/
def check (s : RunSettings) : Except SettingsError Unit := do
  if s.chipFile.isEmpty then throw (.missingField "device.chipdb")
  let _ ← PlacerKind.ofName s.placer
  if s.ripupPenalty < 0 then throw (.invalid "route.ripup_delay_penalty must not be negative")
  if s.estimator.clusterBels = 0 then throw (.invalid "estimator.cluster_bels must be positive")
  if s.estimator.boxThreshold < 0 then
    throw (.invalid "estimator.bbox_cost_threshold must not be negative")

def placerKind (s : RunSettings) : Except SettingsError PlacerKind := PlacerKind.ofName s.placer

end RunSettings
end Interconnect
