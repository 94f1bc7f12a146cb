import Interconnect.Toml.Moment
import Interconnect.Toml.Number
import Interconnect.Toml.Quoted
/-!
# TOML documents

Pairs of dotted keys and values, and the headers of tables, a line each. A value may hold other
values, at a depth below eighty, and a key has fewer than eighty parts.
-/
namespace Interconnect.Toml

/-- The depth that values and keys stay below. -/
def depthLimit : Nat := 80

def isKeyChar (c : Char) : Bool := c.isAlphanum || c == '-' || c == '_'

def simpleKey : Reader String
  | [] => none
  | c :: cs =>
    if c = '"' ∨ c = '\x27' then Quoted.ofLine (c :: cs)
    else
      let name := (c :: cs).takeWhile isKeyChar
      if name.isEmpty then none else some (String.ofList name, (c :: cs).dropWhile isKeyChar)

/-- A dotted key of at most so many parts, with blanks around it. -/
def keyWithin : Nat → Reader (List String)
  | 0, _ => none
  | n + 1, cs => do
    let (name, cs) ← simpleKey (skipBlanks cs)
    match skipBlanks cs with
    | '.' :: cs =>
      let (path, cs) ← keyWithin n cs
      return (name :: path, cs)
    | cs => return ([name], cs)

def key : Reader (List String) := keyWithin (depthLimit - 1)

def pair (value : Reader Value) : Reader (List String × Value) := fun cs => do
  match ← key cs with
  | (path, '=' :: cs) =>
    let (v, cs) ← value (skipBlanks cs)
    return ((path, v), cs)
  | _ => none

/-- The values of a list behind its opening bracket, at most so many. Values are separated by
commas, and one may follow the last. -/
def items (value : Reader Value) : Nat → Reader (List Value)
  | 0, _ => none
  | n + 1, cs => do
    match ← skipGap? false cs with
    | ']' :: cs => return ([], cs)
    | cs =>
      let (v, cs) ← value cs
      match ← skipGap? false cs with
      | ',' :: cs =>
        let (vs, cs) ← items value n cs
        return (v :: vs, cs)
      | ']' :: cs => return ([v], cs)
      | _ => none

/-- The pairs of a table behind its opening brace or behind a comma, at most so many. They stand on
one line, separated by commas. -/
def fields (value : Reader Value) : Nat → Reader (List (List String × Value))
  | 0, _ => none
  | n + 1, cs => do
    let (p, cs) ← pair value cs
    match skipBlanks cs with
    | ',' :: cs =>
      let (ps, cs) ← fields value n cs
      return (p :: ps, cs)
    | '\x7d' :: cs => return ([p], cs)
    | _ => none

/-- A table in braces, behind the opening one. -/
def braced (value : Reader Value) : Reader Value := fun cs => do
  match skipBlanks cs with
  | '\x7d' :: cs => return (.table .inline [], cs)
  | cs =>
    let (ps, cs) ← fields value cs.length cs
    return (.table .inline (← Entries.insertAll? [] ps), cs)

/-- A value in which others are nested less deep than a limit. -/
def value : Nat → Reader Value
  | 0, _ => none
  | depth + 1, cs =>
    match cs with
    | '[' :: cs => if depth = 0 then none else do
      let (vs, cs) ← items (value depth) cs.length cs
      return (.list vs, cs)
    | '\x7b' :: cs => if depth = 0 then none else braced (value depth) cs
    | 't' :: 'r' :: 'u' :: 'e' :: cs => some (.boolean true, cs)
    | 'f' :: 'a' :: 'l' :: 's' :: 'e' :: cs => some (.boolean false, cs)
    | cs => match Moment.read? cs with
      | some rest => some (.moment, rest)
      | none => match Quoted.read cs with
        | some (s, rest) => some (.text s, rest)
        | none => Number.read cs

inductive Statement where
  | pair (path : List String) (value : Value)
  /-- The header of a table that others of its name may follow, or of a single one. -/
  | header (repeatable : Bool) (path : List String)

def header : Reader Statement
  | '[' :: cs => do
    match ← key cs with
    | (path, ']' :: ']' :: cs) => return (.header true path, cs)
    | _ => none
  | cs => do
    match ← key cs with
    | (path, ']' :: cs) => return (.header false path, cs)
    | _ => none

/-- A statement and the rest behind the end of its line. -/
def statement : Reader Statement := fun cs => do
  let (s, cs) ← match cs with
    | '[' :: cs => header cs
    | cs => do
      let ((path, v), cs) ← pair (value depthLimit) cs
      pure (Statement.pair path v, cs)
  return (s, ← lineEnd? cs)

/-- The statements of a text of at most so many lines. -/
def statements : Nat → List Char → Option (List Statement)
  | 0, _ => none
  | n + 1, cs => match skipBlanks cs with
    | [] => some []
    | '#' :: cs => do statements n (← lineEnd? ('#' :: cs))
    | cs => match newline? cs with
      | some cs => statements n cs
      | none => do
        let (s, cs) ← statement cs
        return s :: (← statements n cs)

/-- Pairs up to the next header, and the statements from there on. -/
def leadingPairs : List Statement → List (List String × Value) × List Statement
  | .pair path v :: rest =>
    let (pairs, rest) := leadingPairs rest
    ((path, v) :: pairs, rest)
  | rest => ([], rest)

/-- The tables of headers, each with the pairs that follow it, first one last. -/
def sections : List Statement → List (Bool × List String × List (List String × Value))
  | [] => []
  | .header repeatable path :: rest => (repeatable, path, (leadingPairs rest).1) :: sections rest
  | .pair .. :: rest => sections rest

/-- The entries of a document, if it is well formed. A byte order mark in front does not count. -/
def Document.parse? (text : String) : Option Entries := do
  let cs := match text.toList with
    | '\ufeff' :: cs => cs
    | cs => cs
  let statements ← statements (cs.length + 1) cs
  let top ← Entries.insertAll? [] (leadingPairs statements).1
  (sections statements).foldlM (fun entries (repeatable, path, pairs) =>
    Entries.openTable? repeatable (Entries.insertAll? · pairs) entries path) top

end Interconnect.Toml
