import Interconnect.Bytes.Word
/-!
# Codecs

A codec writes values as bytes and reads them back from the front of a byte string. Numbers take as
few bytes as their class needs: up to 250 in one byte, larger ones behind a marker that tells their
width. Sequences carry their length in front.
-/
namespace Interconnect

inductive ReadError where
  /-- No value is written like this, or the bytes end too early. -/
  | malformed
  /-- A text of a length that no memory holds. -/
  | oversized (length : Nat)
  deriving DecidableEq, Repr

/-- How a kind of value is written and read. -/
structure Codec (α : Type) where
  write : α → List UInt8
  read : List UInt8 → Except ReadError (α × List UInt8)

namespace Codec

variable {α β γ : Type}

/-- The values of `α` written as the values of `β` that stand for them. -/
def through (c : Codec β) (there : α → β) (back : β → α) : Codec α where
  write a := c.write (there a)
  read bytes := (c.read bytes).map fun (b, rest) => (back b, rest)

def pair (a : Codec α) (b : Codec β) : Codec (α × β) where
  write p := a.write p.1 ++ b.write p.2
  read bytes := do
    let (x, bytes) ← a.read bytes
    let (y, bytes) ← b.read bytes
    return ((x, y), bytes)

/-- The first `n` bytes, if there are as many. -/
def takeExactly (n : Nat) (bytes : List UInt8) : Except ReadError (List UInt8 × List UInt8) :=
  let front := bytes.take n
  if front.length = n then .ok (front, bytes.drop n) else .error .malformed

def readWord (n : Nat) (bytes : List UInt8) : Except ReadError (Nat × List UInt8) :=
  (takeExactly n bytes).map fun (front, rest) => (Bytes.toNat front, rest)

/-- A number with its marker; `wide` admits the class of eight bytes. -/
def readNumber (wide : Bool) : List UInt8 → Except ReadError (Nat × List UInt8)
  | [] => .error .malformed
  | b :: rest =>
    if b.toNat ≤ 250 then .ok (b.toNat, rest)
    else if b.toNat = 251 then readWord 2 rest
    else if b.toNat = 252 then readWord 4 rest
    else if b.toNat = 253 ∧ wide then readWord 8 rest
    else .error .malformed

def writeNumber (n : Nat) : List UInt8 :=
  if n ≤ 250 then [UInt8.ofNat n]
  else if n < UInt16.size then 251 :: Bytes.ofNat 2 n
  else if n < UInt32.size then 252 :: Bytes.ofNat 4 n
  else 253 :: Bytes.ofNat 8 n

def nat : Codec Nat := ⟨writeNumber, readNumber false⟩

def length : Codec Nat := ⟨writeNumber, readNumber true⟩

/-- Signed numbers in the order 0, -1, 1, -2, 2 and so on. -/
def zigzag (i : Int) : Nat := if i < 0 then 2 * i.natAbs - 1 else 2 * i.natAbs

def unzigzag (n : Nat) : Int := if n % 2 = 1 then -((n / 2 : Nat) + 1) else (n / 2 : Nat)

def int : Codec Int := nat.through zigzag unzigzag

/-- One of two bytes, zero for false. -/
def bool : Codec Bool where
  write b := [if b then 1 else 0]
  read
    | 0 :: rest => .ok (false, rest)
    | 1 :: rest => .ok (true, rest)
    | _ => .error .malformed

def option (c : Codec α) : Codec (Option α) where
  write
    | none => [0]
    | some a => 1 :: c.write a
  read
    | 0 :: rest => .ok (none, rest)
    | 1 :: rest => (c.read rest).map fun (a, rest) => (some a, rest)
    | _ => .error .malformed

/-- A fixed number of values. -/
def readMany (c : Codec α) : Nat → List UInt8 → Except ReadError (List α × List UInt8)
  | 0, bytes => .ok ([], bytes)
  | n + 1, bytes => do
    let (a, bytes) ← c.read bytes
    let (as, bytes) ← readMany c n bytes
    return (a :: as, bytes)

/-- Values behind their number. -/
def array (c : Codec α) : Codec (Array α) where
  write as := length.write as.size ++ as.toList.flatMap c.write
  read bytes := do
    let (n, bytes) ← length.read bytes
    let (as, bytes) ← readMany c n bytes
    return (as.toArray, bytes)

/-- Texts have fewer bytes than this. -/
def textLimit : Nat := 1 <<< 63

/-- The UTF-8 bytes of a text behind their number. Room for the text is made before its bytes are
read. -/
def text : Codec String where
  write s := length.write s.toByteArray.size ++ s.toByteArray.data.toList
  read bytes := do
    let (n, bytes) ← length.read bytes
    if textLimit ≤ n then throw (.oversized n)
    let (front, bytes) ← takeExactly n bytes
    match String.fromUTF8? ⟨front.toArray⟩ with
    | some s => return (s, bytes)
    | none => throw .malformed

/-- One of a list of values, as its place in the list. -/
def oneOf [BEq α] (values : List α) : Codec α where
  write a := writeNumber (values.idxOf a)
  read bytes := do
    let (n, bytes) ← nat.read bytes
    match values[n]? with
    | some a => return (a, bytes)
    | none => throw .malformed

end Codec
end Interconnect
