import Interconnect.Chip.File
import Interconnect.CommandLine.Arguments
import Interconnect.CommandLine.Report
import Interconnect.Diagnostic
import Interconnect.Settings.Document
/-!
# Running a command line

A run reads files through a function that it is given, and ends with an exit code and the text for
both output streams. What was reported before a failure stays reported.
-/
namespace Interconnect.CommandLine

def versionText : String := "fabric 0.1.0\n"

def usageText : String :=
  "Usage: fabric [OPTIONS] <COMMAND>\n\n" ++
  "Commands:\n" ++
  "  info <CHIPDB>                  Summarize a chip database\n" ++
  "  pin <CHIPDB> <PIN>             Resolve a package pin to its site and bels\n" ++
  "  bel <CHIPDB> <NAME>            Describe a bel by <site>/<bel> name\n" ++
  "  estimate <CHIPDB> <SRC> <DST>  Estimate the routing delay between two wires\n" ++
  "  check-config <DIR>             Validate a run directory's fabric.toml\n\n" ++
  "Options:\n" ++
  "  -q, --quiet            Suppress all output except results and errors\n" ++
  "      --color <COLOR>    Control colored output [possible values: auto, always, never]\n" ++
  "      --config <CONFIG>  Run directory whose fabric.toml tunes the estimator\n" ++
  "  -h, --help             Print help\n" ++
  "  -V, --version          Print version\n"

/-- What a run prints, and its exit code. -/
structure Outcome where
  exitCode : Nat := 0
  stdout : String := ""
  stderr : String := ""
  deriving DecidableEq, Repr

structure Printed where
  stdout : String := ""
  stderr : String := ""

inductive Abort where
  | failed (e : CommandError)
  | fault (f : Fault)

abbrev FileReader (m : Type → Type) := String → m (Except String (List UInt8))

/-- A run under way, whose files come from outside. -/
abbrev Run (m : Type → Type) := ExceptT Abort (StateT Printed m)

namespace Run

variable {m : Type → Type} [Monad m]

def print (s : String) : Run m Unit := modify fun p => { p with stdout := p.stdout ++ s }

def progress (i : Invocation) (s : String) : Run m Unit :=
  if i.quiet then pure () else modify fun p => { p with stderr := p.stderr ++ s }

def ofExcept {ε α : Type} (wrap : ε → CommandError) : Except ε α → Run m α
  | .ok a => pure a
  | .error e => throw (.failed (wrap e))

def ofQuery {α : Type} : Query α → Run m α
  | .ok a => pure a
  | .error f => throw (.fault f)

def printReport (r : Report) : Run m Unit := do
  print (← ofExcept id (← ofQuery r))

end Run

/-- A path inside a directory. An absolute path stands for itself. -/
def joinPath (dir path : String) : String :=
  if Text.startsWith "/" path then path
  else if dir.toList.getLast? = some '/' then dir ++ path
  else dir ++ "/" ++ path

def settingsPath (dir : String) : String := joinPath dir "fabric.toml"

section

variable {m : Type → Type} [Monad m] (read : FileReader m) (i : Invocation)

def loadDevice (path : String) : Run m Device := do
  match ← read path with
  | .error reason => throw (.failed (.chip (.unreadable path reason)))
  | .ok file =>
    let db ← Run.ofExcept .chip (← Run.ofQuery (ChipFile.load path file))
    Run.ofExcept .chip (← Run.ofQuery (Device.ofDatabase db))

def openDevice (path : String) : Run m Device := do
  Run.progress i s!"     Loading {path}\n"
  loadDevice read path

def loadSettings (dir : String) : Run m RunSettings := do
  match ← read (settingsPath dir) with
  | .error reason => throw (.failed (.settings (.unreadable reason)))
  | .ok file => match String.fromUTF8? ⟨file.toArray⟩ with
    | none => throw (.failed (.settings (.unreadable "stream did not contain valid UTF-8")))
    | some text => Run.ofExcept .settings (Settings.ofText text)

def runCommand : Run m Unit := do
  match i.command with
  | .info chipFile format =>
    let d ← openDevice read i chipFile
    let report ← Run.ofQuery (match format with
      | .text => infoText d
      | .json => infoJson d)
    Run.print report
  | .pin chipFile pin => do Run.printReport (pinReport (← openDevice read i chipFile) pin)
  | .bel chipFile name => do Run.printReport (belReport (← openDevice read i chipFile) name)
  | .estimate chipFile src dst =>
    let c : Context := { device := ← openDevice read i chipFile }
    let c ← match i.config with
      | some dir => do Run.ofExcept .settings (c.applySettings (← loadSettings read dir))
      | none => pure c
    Run.printReport (estimateReport c src dst)
  | .checkConfig dir =>
    let settings ← loadSettings read dir
    Run.progress i s!"    Checking {settingsPath dir}\n"
    Run.print (settingsReport settings)
    let c : Context := { device := ← loadDevice read (joinPath dir settings.chipFile) }
    let c ← Run.ofExcept .settings (c.applySettings settings)
    Run.print (openedReport c.device)

/-- The failure of a run as a message on the terminal. -/
def failureText (terminal : Bool) (e : CommandError) : String :=
  let color := match i.color with
    | .auto => terminal
    | .always => true
    | .never => false
  Diagnostic.render { severity := .error, code := ⟨.error, 1⟩, message := e.message } color

/-- Runs an invocation, on a terminal or not. -/
def Invocation.run (terminal : Bool) : m Outcome := do
  let (result, printed) ← (runCommand read i).run.run {}
  return match result with
    | .ok _ => { stdout := printed.stdout, stderr := printed.stderr }
    | .error (.failed e) =>
      { exitCode := 1, stdout := printed.stdout
        stderr := printed.stderr ++ failureText i terminal e }
    | .error (.fault _) =>
      { exitCode := 101, stdout := printed.stdout
        stderr := printed.stderr ++ "the chip database contradicts itself\n" }

def runArguments (terminal : Bool) (arguments : List String) : m Outcome :=
  match Invocation.ofArguments arguments with
  | .ok i => i.run read terminal
  | .error .help => pure { stdout := usageText }
  | .error .version => pure { stdout := versionText }
  | .error .usage => pure { exitCode := 2, stderr := usageText }

end

end Interconnect.CommandLine
