/-!
# TOML values

Values of a TOML document and the rules by which keys and headers build its tables. A table is
defined once; how it came to be decides what may still be added to it.
-/
namespace Interconnect.Toml

/-- How a table came to be. -/
inductive Origin where
  /-- By a header of its own, or as the document. -/
  | header
  /-- As a part of another table's header. -/
  | implied
  /-- As a part of a dotted key. -/
  | dotted
  /-- In braces. -/
  | inline
  deriving DecidableEq, Repr

inductive Value where
  | text (s : String)
  | integer (i : Int)
  | boolean (b : Bool)
  /-- A number with a fraction or an exponent, or one that is infinite or undefined. -/
  | real
  /-- A date, a time, or both. -/
  | moment
  | list (values : List Value)
  | table (origin : Origin) (entries : List (String × Value))
  /-- The tables of repeated headers, last one first. -/
  | tables (last : List (String × Value)) (before : List (List (String × Value)))

abbrev Entries := List (String × Value)

namespace Entries

def put (entries : Entries) (key : String) (value : Value) : Entries :=
  if entries.any (·.1 = key) then entries.map fun e => if e.1 = key then (key, value) else e
  else entries ++ [(key, value)]

/-- Adds a value under a dotted key. The value goes directly into a table if the table is `own` to
the key: the one that a header opened, or one that dotted keys made. -/
def insert? (own : Bool) (value : Value) : Entries → List String → Option Entries
  | _, [] => none
  | entries, [key] =>
    if own && (entries.lookup key).isNone then some (entries ++ [(key, value)]) else none
  | entries, key :: path => match entries.lookup key with
    | none => do return entries ++ [(key, .table .dotted (← insert? true value [] path))]
    | some (.table .dotted sub) => do
      return entries.put key (.table .dotted (← insert? true value sub path))
    | some (.table .implied sub) => do
      return entries.put key (.table .implied (← insert? false value sub path))
    | some (.tables last before) => do
      return entries.put key (.tables (← insert? false value last path) before)
    | some _ => none

def insertAll? (entries : Entries) (pairs : List (List String × Value)) : Option Entries :=
  pairs.foldlM (fun entries (path, value) => insert? true value entries path) entries

/-- Opens the table of a header, fills it, and puts it where the header says. A repeatable header
opens one more table of its name. -/
def openTable? (repeatable : Bool) (fill : Entries → Option Entries) :
    Entries → List String → Option Entries
  | _, [] => none
  | entries, [key] => match repeatable, entries.lookup key with
    | false, none => do return entries ++ [(key, .table .header (← fill []))]
    | false, some (.table .implied sub) => do return entries.put key (.table .header (← fill sub))
    | true, none => do return entries ++ [(key, .tables (← fill []) [])]
    | true, some (.tables last before) => do
      return entries.put key (.tables (← fill []) (last :: before))
    | _, _ => none
  | entries, key :: path => match entries.lookup key with
    | none => do
      return entries ++ [(key, .table .implied (← openTable? repeatable fill [] path))]
    | some (.table .inline _) => none
    | some (.table origin sub) => do
      return entries.put key (.table origin (← openTable? repeatable fill sub path))
    | some (.tables last before) => do
      return entries.put key (.tables (← openTable? repeatable fill last path) before)
    | some _ => none

end Entries
end Interconnect.Toml
