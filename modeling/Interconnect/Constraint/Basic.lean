import Interconnect.Constraint.Words
import Interconnect.Diagnostic
import Interconnect.Netlist
import Interconnect.Text.Blank
import Interconnect.Text.Lines
/-!
# Constraint files

A constraint file sets properties of ports, a command a line. A property becomes an attribute of
the cell that the port names. The first malformed line ends the file; what the lines before it set
stays.
-/
namespace Interconnect

inductive ConstraintError where
  | unreadable (path reason : String)
  | arity (line : Nat)
  | badTarget (line : Nat) (target : String)
  | unsupportedTarget (line : Nat)
  | unbalanced (line : Nat)
  deriving DecidableEq, Repr

def ConstraintError.message : ConstraintError → String
  | unreadable path reason => s!"failed to read constraint file '{path}': {reason}"
  | arity line => s!"expected four arguments to 'set_property' (on line {line})"
  | badTarget line target => s!"failed to parse target '{target}' (on line {line})"
  | unsupportedTarget line => s!"targets other than 'get_ports' are not supported (on line {line})"
  | unbalanced line => s!"unbalanced brackets (on line {line})"

inductive Constraint where
  /-- Nothing that has an effect. -/
  | nothing
  | property (port key value : String)
  /-- A command that is not known. -/
  | unknown (command : String)
  deriving DecidableEq, Repr

namespace Constraint

/-- Properties that are accepted and have no effect. -/
def inertProperties : List String := ["INTERNAL_VREF"]

def uncomment (cs : List Char) : List Char := cs.takeWhile (· ≠ '#')

def targetPort (line : Nat) (target : List Char) : Except ConstraintError String :=
  let bad := .error (.badTarget line (String.ofList target))
  match target with
  | '[' :: rest => match (stripLast? ']' rest).bind (words? false) with
    | some (command :: port :: _) =>
      if command ≠ "get_ports".toList then .error (.unsupportedTarget line)
      else match unquote? port with
        | some port => .ok (String.ofList port)
        | none => bad
    | _ => bad
  | _ => bad

/-- The constraint that the words behind a property command state. -/
def ofArguments (line : Nat) : List (List Char) → Except ConstraintError Constraint
  | [key, value, target] => do
    let key := String.ofList key
    if inertProperties.contains key then return nothing
    let port ← targetPort line target
    return property port key (String.ofList ((unquote? value).getD value))
  | _ => .error (.arity line)

/-- The constraint on a numbered line. -/
def ofLine (line : Nat) (cs : List Char) : Except ConstraintError Constraint :=
  let content := uncomment cs
  if content.all Text.isBlank then .ok nothing
  else
    let content := (content.reverse.dropWhile (· = '\r')).reverse
    match words? true content with
    | none => .error (.unbalanced line)
    | some [] => .ok nothing
    | some (command :: arguments) =>
      if command = "set_property".toList then ofArguments line arguments
      else .ok (unknown (String.ofList command))

end Constraint

/-- What applying constraints leaves behind: the number of properties set, or the error that ended
it. -/
structure ConstraintOutcome where
  result : Except ConstraintError Nat
  netlist : Netlist
  log : Log

namespace Netlist

def setAttr (n : Netlist) (c : CellId) (key value : String) : Netlist :=
  n.modifyCell c fun cell => { cell with attrs := cell.attrs.insert key value }

/-- The netlist and the log after a constraint, and the number of properties it sets. -/
def constrain (n : Netlist) (log : Log) (location : SourceLine) : Constraint → Netlist × Log × Nat
  | .nothing => (n, log, 0)
  | .unknown command =>
    (n, log.emit { severity := .note, code := ⟨.constraint, 1⟩, location
                   message := s!"ignoring unsupported XDC command '{command}'" }, 0)
  | .property port key value => match n.cellByName port with
    | some c => (n.setAttr c key value, log, 1)
    | none =>
      (n, log.emit { severity := .warning, code := ⟨.constraint, 2⟩, location
                     message := s!"port '{port}' not found in the design"
                     help := [s!"property '{key}' was not applied"] }, 0)

/-- Applies lines, of which the first has the given number. -/
def constrainLines (n : Netlist) (log : Log) (file : String) (line applied : Nat) :
    List (List Char) → ConstraintOutcome
  | [] => ⟨.ok applied, n, log⟩
  | cs :: rest => match Constraint.ofLine line cs with
    | .error e => ⟨.error e, n, log⟩
    | .ok c =>
      let (n, log, count) := n.constrain log ⟨file, line⟩ c
      n.constrainLines log file (line + 1) (applied + count) rest

def constrainText (n : Netlist) (log : Log) (file text : String) : ConstraintOutcome :=
  n.constrainLines log file 1 0 (Text.lines text.toList)

end Netlist
end Interconnect
