import Interconnect.Gzip.Crc32
import Interconnect.Gzip.Inflate
/-!
# Gzip files

A header with optional fields, deflated data, and a check sum and size behind it. Only the first
member of a file counts.
-/
namespace Interconnect.Gzip

/-- The two bytes that every gzip file starts with. -/
def magic : List UInt8 := [0x1f, 0x8b]

/-- The most bytes in a text of the header. -/
def textLimit : Nat := 65535

/-- What stands behind a text of at most so many bytes that a zero byte ends. -/
def skipText : Nat → List UInt8 → Option (List UInt8)
  | _, [] => none
  | 0, b :: rest => if b = 0 then some rest else none
  | n + 1, b :: rest => if b = 0 then some rest else skipText n rest

def skip? (n : Nat) (bytes : List UInt8) : Option (List UInt8) :=
  if n ≤ bytes.length then some (bytes.drop n) else none

def skipExtra? (bytes : List UInt8) : Option (List UInt8) := do
  let rest ← skip? 2 bytes
  skip? (Bytes.toNat (bytes.take 2)) rest

/-- What stands behind the header's check sum, if that fits the header in front of it. -/
def skipCheck? (file rest : List UInt8) : Option (List UInt8) := do
  let crc := Crc32.ofBytes (file.take (file.length - rest.length))
  let after ← skip? 2 rest
  if Bytes.toNat (rest.take 2) = crc.toNat % 65536 then some after else none

/-- What stands behind the header. -/
def skipHeader? (file : List UInt8) : Option (List UInt8) := do
  let rest ← skip? 10 file
  match file with
  | 0x1f :: 0x8b :: 8 :: flags :: _ =>
    let flag (i : Nat) : Bool := flags.toNat.testBit i
    if flag 5 || flag 6 || flag 7 then none
    let rest ← if flag 2 then skipExtra? rest else some rest
    let rest ← if flag 3 then skipText textLimit rest else some rest
    let rest ← if flag 4 then skipText textLimit rest else some rest
    if flag 1 then skipCheck? file rest else some rest
  | _ => none

def decompress? (file : List UInt8) : Option (List UInt8) := do
  let (out, rest) ← Deflate.inflate? (← skipHeader? file)
  if rest.length < 8 then none
  else if Bytes.toNat (rest.take 4) ≠ (Crc32.ofBytes out).toNat then none
  else if Bytes.toNat ((rest.drop 4).take 4) ≠ out.length % UInt32.size then none
  else some out

/-- A gzip file with the given contents, stored as they are. -/
def compress (contents : List UInt8) : List UInt8 :=
  magic ++ [8, 0, 0, 0, 0, 0, 0, 255] ++ Deflate.store contents ++
    Bytes.ofNat 4 (Crc32.ofBytes contents).toNat ++ Bytes.ofNat 4 contents.length

end Interconnect.Gzip
