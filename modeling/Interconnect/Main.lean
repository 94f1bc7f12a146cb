import Interconnect.CommandLine.Run
/-!
# The command line program
-/
namespace Interconnect.CommandLine

def readSystemFile (path : String) : IO (Except String (List UInt8)) := do
  try
    let bytes ← IO.FS.readBinFile path
    return .ok bytes.data.toList
  catch e => return .error (toString e)

/-- Runs a command line and prints what it says. -/
def runOnSystem (arguments : List String) : IO UInt32 := do
  let terminal := (← IO.getEnv "TERM").isSome
  let outcome ← runArguments readSystemFile terminal arguments
  IO.print outcome.stdout
  IO.eprint outcome.stderr
  return UInt32.ofNat outcome.exitCode

end Interconnect.CommandLine

def main (arguments : List String) : IO UInt32 := Interconnect.CommandLine.runOnSystem arguments
