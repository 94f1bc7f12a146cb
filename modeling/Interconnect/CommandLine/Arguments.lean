/-!
# Arguments of the command line

A command line is a sequence of flags and operands. The first operand names a command, and the
others belong to it. Flags for all commands may stand in front of the command or behind it; what is
given behind it prevails. No flag may be given twice in one of the two places.
-/
namespace Interconnect.CommandLine

inductive ColorChoice where
  | auto
  | always
  | never
  deriving DecidableEq, Repr

def ColorChoice.ofName? : String → Option ColorChoice
  | "auto" => some auto
  | "always" => some always
  | "never" => some never
  | _ => none

inductive ReportFormat where
  | text
  | json
  deriving DecidableEq, Repr

def ReportFormat.ofName? : String → Option ReportFormat
  | "text" => some text
  | "json" => some json
  | _ => none

inductive CommandName where
  | info
  | pin
  | bel
  | estimate
  | checkConfig
  deriving DecidableEq, Repr

def CommandName.ofName? : String → Option CommandName
  | "info" => some info
  | "pin" => some pin
  | "bel" => some bel
  | "estimate" => some estimate
  | "check-config" => some checkConfig
  | _ => none

/-- How many operands a command has. The first of them is a path. -/
def CommandName.arity : CommandName → Nat
  | info | checkConfig => 1
  | pin | bel => 2
  | estimate => 3

inductive Command where
  | info (chipFile : String) (format : ReportFormat)
  | pin (chipFile pin : String)
  | bel (chipFile name : String)
  | estimate (chipFile src dst : String)
  | checkConfig (dir : String)
  deriving DecidableEq, Repr

structure Invocation where
  quiet : Bool
  color : ColorChoice
  /-- The run directory whose settings tune the estimates. -/
  config : Option String
  command : Command
  deriving DecidableEq, Repr

inductive Refusal where
  | usage
  | help
  | version
  deriving DecidableEq, Repr

inductive Flag where
  | quiet
  | color
  | config
  | format
  | help
  | version
  deriving DecidableEq, Repr

namespace Flag

def hasValue : Flag → Bool
  | color | config | format => true
  | quiet | help | version => false

/-- Whether a flag may stand in front of the command, or behind the given one. -/
def allowed (command : Option CommandName) : Flag → Bool
  | version => command.isNone
  | format => command = some .info
  | _ => true

def ofLong? : String → Option Flag
  | "quiet" => some quiet
  | "color" => some color
  | "config" => some config
  | "format" => some format
  | "help" => some help
  | "version" => some version
  | _ => none

def ofShort? : Char → Option Flag
  | 'q' => some quiet
  | 'f' => some format
  | 'h' => some help
  | 'V' => some version
  | _ => none

end Flag

/-- What has been given in one of the two places. -/
structure Given where
  quiet : Bool := false
  color : Option ColorChoice := none
  config : Option String := none
  format : Option ReportFormat := none
  operands : List String := []
  deriving DecidableEq, Repr

namespace Given

def once {α : Type} (before value : Option α) : Except Refusal (Option α) :=
  if before.isSome || value.isNone then .error .usage else .ok value

def switch (g : Given) : Flag → Except Refusal Given
  | .quiet => if g.quiet then .error .usage else .ok { g with quiet := true }
  | .help => .error .help
  | .version => .error .version
  | _ => .error .usage

/-- Takes a flag with its value. Paths are not empty. -/
def option (g : Given) (flag : Flag) (value : String) : Except Refusal Given :=
  match flag with
  | .color => do return { g with color := ← once g.color (ColorChoice.ofName? value) }
  | .config => do
    return { g with config := ← once g.config (if value.isEmpty then none else some value) }
  | .format => do return { g with format := ← once g.format (ReportFormat.ofName? value) }
  | _ => .error .usage

/-- Takes an operand of a command. Paths are not empty. -/
def operand (g : Given) (command : CommandName) (a : String) : Except Refusal Given :=
  if g.operands.length < command.arity ∧ ¬(g.operands = [] ∧ a = "") then
    .ok { g with operands := g.operands ++ [a] }
  else .error .usage

end Given

/-- An argument is a flag if it starts with a minus sign and goes on. -/
def isFlag : List Char → Bool
  | '-' :: _ :: _ => true
  | _ => false

/-- A value that follows a sign of equality. -/
def attached : List Char → List Char
  | '=' :: value => value
  | value => value

/-- Reads a group of short flags. The flag that still waits for its value is given, too. -/
def readShort (command : Option CommandName) (g : Given) :
    List Char → Except Refusal (Given × Option Flag)
  | [] => .ok (g, none)
  | c :: rest => match (Flag.ofShort? c).filter (Flag.allowed command) with
    | none => .error .usage
    | some flag =>
      if flag.hasValue then
        if rest.isEmpty then .ok (g, some flag)
        else do return (← g.option flag (String.ofList (attached rest)), none)
      else do readShort command (← g.switch flag) rest

/-- Reads a long flag, with a value behind a sign of equality or not. -/
def readLong (command : Option CommandName) (g : Given) (cs : List Char) :
    Except Refusal (Given × Option Flag) :=
  let name := cs.takeWhile (· ≠ '=')
  let value := cs.dropWhile (· ≠ '=')
  match (Flag.ofLong? (String.ofList name)).filter (Flag.allowed command) with
  | none => .error .usage
  | some flag =>
    if flag.hasValue then
      if value.isEmpty then .ok (g, some flag)
      else do return (← g.option flag (String.ofList (attached value)), none)
    else if value.isEmpty then do return (← g.switch flag, none)
    else .error .usage

def readFlag (command : Option CommandName) (g : Given) :
    List Char → Except Refusal (Given × Option Flag)
  | '-' :: '-' :: cs => readLong command g cs
  | cs => readShort command g cs.tail

/-- Reads what belongs to a command. Behind two minus signs, everything is an operand. -/
def readOperands (command : CommandName) (waiting : Option Flag) (literal : Bool) (g : Given) :
    List String → Except Refusal Given
  | [] => if waiting.isSome then .error .usage else .ok g
  | a :: rest =>
    if literal then
      if waiting.isSome then .error .usage
      else do readOperands command none true (← g.operand command a) rest
    else if a = "--" then readOperands command waiting true g rest
    else match waiting, isFlag a.toList with
      | some _, true => .error .usage
      | some flag, false => do readOperands command none false (← g.option flag a) rest
      | none, true => do
        let (g, waiting) ← readFlag (some command) g a.toList
        readOperands command waiting false g rest
      | none, false => do readOperands command none false (← g.operand command a) rest

/-- Reads up to the command, and gives its name with the arguments behind it. -/
def readCommand (waiting : Option Flag) (g : Given) :
    List String → Except Refusal (Given × CommandName × List String)
  | [] => .error .usage
  | a :: rest => match waiting, isFlag a.toList with
    | some _, true => .error .usage
    | some flag, false => do readCommand none (← g.option flag a) rest
    | none, true => do
      let (g, waiting) ← readFlag none g a.toList
      readCommand waiting g rest
    | none, false => match CommandName.ofName? a with
      | some name => .ok (g, name, rest)
      | none =>
        let isTopic : Bool := match rest with
          | [] => true
          | [topic] => topic = "help" || (CommandName.ofName? topic).isSome
          | _ => false
        .error (if a = "help" ∧ isTopic then .help else .usage)

def Command.ofOperands? (name : CommandName) (format : ReportFormat) (operands : List String) :
    Option Command :=
  match name, operands with
  | .info, [chipFile] => some (.info chipFile format)
  | .pin, [chipFile, name] => some (.pin chipFile name)
  | .bel, [chipFile, name] => some (.bel chipFile name)
  | .estimate, [chipFile, src, dst] => some (.estimate chipFile src dst)
  | .checkConfig, [dir] => some (.checkConfig dir)
  | _, _ => none

def Invocation.ofArguments (arguments : List String) : Except Refusal Invocation := do
  let (front, name, rest) ← readCommand none {} arguments
  let back ← readOperands name none false {} rest
  match Command.ofOperands? name (back.format.getD .text) back.operands with
  | none => throw .usage
  | some command =>
    return {
      quiet := front.quiet || back.quiet
      color := (back.color.or front.color).getD .auto
      config := back.config.or front.config
      command }

end Interconnect.CommandLine
