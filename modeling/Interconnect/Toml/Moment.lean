import Interconnect.Text.Number
import Interconnect.Toml.Space
/-!
# TOML dates and times

Each reader gives the rest of the text behind what it accepts.
-/
namespace Interconnect.Toml.Moment

/-- A number of exactly so many digits, behind those read before. -/
def fixed (before : Nat) : Nat → Reader Nat
  | 0, cs => some (before, cs)
  | _ + 1, [] => none
  | n + 1, c :: cs => do fixed (10 * before + (← Text.digit? c)) n cs

def mark? (c : Char) : List Char → Option (List Char)
  | [] => none
  | d :: rest => if d = c then some rest else none

def isLeap (year : Nat) : Bool := year % 4 = 0 ∧ (year % 100 ≠ 0 ∨ year % 400 = 0)

def daysIn (year month : Nat) : Nat :=
  if month = 2 then if isLeap year then 29 else 28
  else if month = 4 ∨ month = 6 ∨ month = 9 ∨ month = 11 then 30
  else 31

def date? (cs : List Char) : Option (List Char) := do
  let (year, cs) ← fixed 0 4 cs
  let (month, cs) ← fixed 0 2 (← mark? '-' cs)
  let (day, cs) ← fixed 0 2 (← mark? '-' cs)
  if 1 ≤ month ∧ month ≤ 12 ∧ 1 ≤ day ∧ day ≤ daysIn year month then some cs else none

def hourMinute? (cs : List Char) : Option (List Char) := do
  let (hour, cs) ← fixed 0 2 cs
  let (minute, cs) ← fixed 0 2 (← mark? ':' cs)
  if hour < 24 ∧ minute < 60 then some cs else none

/-- The digits behind a point, of which there may be any number. -/
def skipFraction (cs : List Char) : List Char :=
  match mark? '.' cs with
  | some (c :: rest) => if c.isDigit then rest.dropWhile Char.isDigit else cs
  | _ => cs

/-- A time of day; a leap second is one. -/
def time? (cs : List Char) : Option (List Char) := do
  let (second, cs) ← fixed 0 2 (← mark? ':' (← hourMinute? cs))
  if second ≤ 60 then some (skipFraction cs) else none

def skipOffset : List Char → List Char
  | [] => []
  | c :: rest =>
    if c = 'Z' ∨ c = 'z' then rest
    else if c = '+' ∨ c = '-' then (hourMinute? rest).getD (c :: rest)
    else c :: rest

/-- The time behind a date, if there is one. -/
def skipTime : List Char → List Char
  | [] => []
  | c :: rest =>
    if c = 'T' ∨ c = 't' ∨ c = ' ' then ((time? rest).map skipOffset).getD (c :: rest)
    else c :: rest

def read? (cs : List Char) : Option (List Char) := ((date? cs).map skipTime).or (time? cs)

end Interconnect.Toml.Moment
