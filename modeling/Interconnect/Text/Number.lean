/-!
# Numbers in text
-/
namespace Interconnect.Text

def digit? (c : Char) : Option Nat :=
  if 48 ≤ c.toNat ∧ c.toNat ≤ 57 then some (c.toNat - 48) else none

/-- The value of a digit in a base of at most sixteen. -/
def digitIn? (base : Nat) (c : Char) : Option Nat :=
  let n := c.toNat
  let value :=
    if 48 ≤ n ∧ n ≤ 57 then n - 48
    else if 65 ≤ n ∧ n ≤ 70 then n - 55
    else if 97 ≤ n ∧ n ≤ 102 then n - 87
    else base
  if value < base then some value else none

/-- The value of decimal digits behind those read before. -/
def digits? (before : Nat) : List Char → Option Nat
  | [] => some before
  | c :: cs => do digits? (10 * before + (← digit? c)) cs

/-- A number of 32 bits: one or more digits, behind a plus sign or not. -/
def index? (cs : List Char) : Option Nat := do
  let cs := match cs with
    | '+' :: rest => rest
    | rest => rest
  if cs.isEmpty then none
  let n ← digits? 0 cs
  if n < UInt32.size then some n else none

end Interconnect.Text
