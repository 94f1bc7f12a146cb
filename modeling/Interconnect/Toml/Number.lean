import Interconnect.Text.Number
import Interconnect.Toml.Space
import Interconnect.Toml.Value
/-!
# TOML numbers
-/
namespace Interconnect.Toml.Number

/-- The digits at the front of a text; an underscore may stand between two of them. -/
def digits (base : Nat) : Reader (List Nat)
  | [] => none
  | [c] => do return ([← Text.digitIn? base c], [])
  | c :: '_' :: rest => do
    let first ← Text.digitIn? base c
    let (more, rest) ← digits base rest
    return (first :: more, rest)
  | c :: d :: rest => do
    let first ← Text.digitIn? base c
    if (Text.digitIn? base d).isNone then return ([first], d :: rest)
    let (more, rest) ← digits base (d :: rest)
    return (first :: more, rest)

def ofDigits (base : Nat) (ds : List Nat) : Nat := ds.foldl (fun n d => base * n + d) 0

def sign : List Char → Bool × List Char
  | '+' :: rest => (false, rest)
  | '-' :: rest => (true, rest)
  | cs => (false, cs)

/-- Integers have 64 bits. -/
def integer? (i : Int) : Option Value :=
  if -(1 <<< 63) ≤ i ∧ i < 1 <<< 63 then some (.integer i) else none

/-- Decimal digits without a zero in front. -/
def wholePart : Reader (List Nat)
  | '0' :: rest => some ([0], rest)
  | cs => digits 10 cs

def fraction : Reader (Option (List Nat))
  | '.' :: rest => (digits 10 rest).map fun (ds, rest) => (some ds, rest)
  | cs => some (none, cs)

def exponent : Reader (Option Int)
  | c :: rest =>
    if c = 'e' ∨ c = 'E' then
      let (negative, rest) := sign rest
      (digits 10 rest).map fun (ds, rest) =>
        let n : Int := ofDigits 10 ds
        (some (if negative then -n else n), rest)
    else some (none, c :: rest)
  | [] => some (none, [])

/-- Whether a decimal number is nearer to 2¹⁰²⁴ than to the greatest number of double precision
below, or beyond. -/
def overflows (ds : List Nat) (exponent : Int) : Bool :=
  let ds := ds.dropWhile (· = 0)
  let n := ofDigits 10 ds
  let magnitude := ds.length + exponent
  let limit := 1 <<< 1024 - 1 <<< 970
  if n = 0 ∨ magnitude < 300 then false
  else if 310 < magnitude then true
  else decide (limit * Nat.pow 10 (-exponent).toNat ≤ n * Nat.pow 10 exponent.toNat)

/-- A decimal number. One with a fraction or an exponent must not exceed the range of double
precision. -/
def decimal : Reader Value := fun cs => do
  let (negative, cs) := sign cs
  let (whole, cs) ← wholePart cs
  let (part, cs) ← fraction cs
  let (power, cs) ← exponent cs
  match part, power with
  | none, none =>
    let n : Int := ofDigits 10 whole
    return (← integer? (if negative then -n else n), cs)
  | _, _ =>
    let part := part.getD []
    if !negative && overflows (whole ++ part) (power.getD 0 - part.length) then none
    return (.real, cs)

/-- A number in another base, behind the letter that names the base. -/
def based (base : Nat) : Reader Value := fun cs => do
  let (ds, rest) ← digits base cs
  return (← integer? (ofDigits base ds), rest)

def read : Reader Value := fun cs =>
  match cs with
  | '0' :: 'x' :: rest => based 16 rest
  | '0' :: 'o' :: rest => based 8 rest
  | '0' :: 'b' :: rest => based 2 rest
  | cs => match (sign cs).2 with
    | 'i' :: 'n' :: 'f' :: rest => some (.real, rest)
    | 'n' :: 'a' :: 'n' :: rest => some (.real, rest)
    | _ => decimal cs

end Interconnect.Toml.Number
