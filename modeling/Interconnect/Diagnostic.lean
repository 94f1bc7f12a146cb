/-!
# Diagnostics

Messages for the user: what is said, how severe it is, where it applies, and how it looks on a
terminal. A log keeps the messages that have not been taken yet and counts every error ever logged.
-/
namespace Interconnect

/-- From progress to failure. -/
inductive Severity where
  | note
  | warning
  | error
  deriving DecidableEq, Repr

namespace Severity

def rank : Severity → Nat
  | note => 0
  | warning => 1
  | error => 2

def label : Severity → String
  | note => "note"
  | warning => "warning"
  | error => "error"

def color : Severity → String
  | note => "36"
  | warning => "33"
  | error => "31"

end Severity

/-- The part of the program that a message is about. -/
inductive Topic where
  | error
  | warning
  | chip
  | placement
  | routing
  | timing
  | constraint
  deriving DecidableEq, Repr

def Topic.letter : Topic → String
  | error => "E"
  | warning => "W"
  | chip => "D"
  | placement => "P"
  | routing => "R"
  | timing => "T"
  | constraint => "X"

structure Code where
  topic : Topic
  number : Nat
  deriving DecidableEq, Repr

/-- A letter and at least three digits. -/
def Code.text (c : Code) : String :=
  let digits := toString c.number
  c.topic.letter ++ String.ofList (List.replicate (3 - digits.length) '0') ++ digits

structure SourceLine where
  file : String
  line : Nat
  deriving DecidableEq, Repr

def SourceLine.text (l : SourceLine) : String := s!"{l.file}:{l.line}"

structure Diagnostic where
  severity : Severity
  code : Code
  message : String
  location : Option SourceLine := none
  notes : List String := []
  help : List String := []
  deriving DecidableEq, Repr

namespace Diagnostic

/-- Severity and code, in bold and in the severity's color where color is on. -/
def head (d : Diagnostic) (color : Bool) : String :=
  let plain := s!"{d.severity.label}[{d.code.text}]"
  if color then "\x1b[1;" ++ d.severity.color ++ "m" ++ plain ++ "\x1b[0m" else plain

/-- The message with its location, notes and help, a line each. -/
def render (d : Diagnostic) (color : Bool) : String :=
  let location := match d.location with
    | some l => s!"  --> {l.text}\n"
    | none => ""
  s!"{d.head color}: {d.message}\n" ++ location ++
    String.join (d.notes.map fun n => s!"   = note: {n}\n") ++
    String.join (d.help.map fun h => s!"   = help: {h}\n")

end Diagnostic

/-- Logged messages, oldest first, and the number of errors logged so far. -/
structure Log where
  held : List Diagnostic := []
  errorCount : Nat := 0
  deriving DecidableEq, Repr

namespace Log

def emit (log : Log) (d : Diagnostic) : Log where
  held := log.held ++ [d]
  errorCount := log.errorCount + if d.severity = .error then 1 else 0

/-- The held messages, and the log without them. -/
def take (log : Log) : List Diagnostic × Log := (log.held, { log with held := [] })

def hasErrors (log : Log) : Bool := decide (0 < log.errorCount)

def severest? (log : Log) : Option Severity :=
  log.held.foldl (fun best d => match best with
    | some s => some (if s.rank < d.severity.rank then d.severity else s)
    | none => some d.severity) none

end Log
end Interconnect
