import Interconnect.Bytes.Word
import Interconnect.Gzip.Huffman
/-!
# Inflating

The deflate format: blocks that are stored as they are, or coded with a fixed or a transmitted
prefix code over literals, lengths and distances.
-/
namespace Interconnect.Deflate

/-- Bits still to be read, lowest bit of each byte first. -/
abbrev Bits := List Bool

def bitsOf (bytes : List UInt8) : Bits :=
  bytes.flatMap fun b => (List.range 8).map b.toNat.testBit

/-- A number of `n` bits, lowest first. -/
def number? : Nat → Bits → Option (Nat × Bits)
  | 0, bits => some (0, bits)
  | _ + 1, [] => none
  | n + 1, bit :: bits => do
    let (high, bits) ← number? n bits
    return (2 * high + bit.toNat, bits)

def bytes? : Nat → Bits → Option (List UInt8 × Bits)
  | 0, bits => some ([], bits)
  | n + 1, bits => do
    let (b, bits) ← number? 8 bits
    let (bs, bits) ← bytes? n bits
    return (UInt8.ofNat b :: bs, bits)

def align (bits : Bits) : Bits := bits.drop (bits.length % 8)

/-- The shortest length and the number of extra bits of each length symbol. -/
def lengthBases : List (Nat × Nat) :=
  [(3, 0), (4, 0), (5, 0), (6, 0), (7, 0), (8, 0), (9, 0), (10, 0), (11, 1), (13, 1), (15, 1),
   (17, 1), (19, 2), (23, 2), (27, 2), (31, 2), (35, 3), (43, 3), (51, 3), (59, 3), (67, 4),
   (83, 4), (99, 4), (115, 4), (131, 5), (163, 5), (195, 5), (227, 5), (258, 0)]

/-- The shortest distance and the number of extra bits of each distance symbol. -/
def distanceBases : List (Nat × Nat) :=
  [(1, 0), (2, 0), (3, 0), (4, 0), (5, 1), (7, 1), (9, 2), (13, 2), (17, 3), (25, 3), (33, 4),
   (49, 4), (65, 5), (97, 5), (129, 6), (193, 6), (257, 7), (385, 7), (513, 8), (769, 8),
   (1025, 9), (1537, 9), (2049, 10), (3073, 10), (4097, 11), (6145, 11), (8193, 12), (12289, 12),
   (16385, 13), (24577, 13)]

/-- A symbol's base and its extra bits added up. -/
def extended? (bases : List (Nat × Nat)) (symbol : Nat) (bits : Bits) : Option (Nat × Bits) := do
  let (base, extra) ← bases[symbol]?
  let (n, bits) ← number? extra bits
  return (base + n, bits)

/-- The byte some way back from the end of the output; zeros stand in front of its start. -/
def byteBack (out : Array UInt8) (distance : Nat) : UInt8 :=
  if distance ≤ out.size then (out[out.size - distance]?).getD 0 else 0

/-- The output with a copy of what it held some way back. -/
def copyBack (out : Array UInt8) (distance : Nat) : Nat → Array UInt8
  | 0 => out
  | n + 1 => copyBack (out.push (byteBack out distance)) distance n

/-- The symbols of a block up to its end. Each symbol takes a bit or more, so the count of bits that
are left bounds the recursion. -/
def symbols (literals distances : CodeTree) : Nat → Array UInt8 → Bits → Option (Array UInt8 × Bits)
  | 0, _, _ => none
  | fuel + 1, out, bits => do
    let (symbol, bits) ← literals.next? bits
    if symbol < 256 then symbols literals distances fuel (out.push (UInt8.ofNat symbol)) bits
    else if symbol = 256 then return (out, bits)
    else
      let (length, bits) ← extended? lengthBases (symbol - 257) bits
      let (symbol, bits) ← distances.next? bits
      let (distance, bits) ← extended? distanceBases symbol bits
      symbols literals distances fuel (copyBack out distance length) bits

/-- A block stored as it is, behind its length and the complement of its length. -/
def storedBlock (out : Array UInt8) (bits : Bits) : Option (Array UInt8 × Bits) := do
  let (length, bits) ← number? 16 (align bits)
  let (check, bits) ← number? 16 bits
  if length + check = 65535 then
    let (bytes, bits) ← bytes? length bits
    return (out ++ bytes, bits)
  else none

def codedBlock (literals distances : List Nat) (out : Array UInt8) (bits : Bits) :
    Option (Array UInt8 × Bits) := do
  let literals ← CodeTree.ofLengths? literals
  let distances ← CodeTree.ofLengths? distances
  symbols literals distances (bits.length + 1) out bits

def fixedLiterals : List Nat :=
  List.replicate 144 8 ++ List.replicate 112 9 ++ List.replicate 24 7 ++ List.replicate 8 8

def fixedDistances : List Nat := List.replicate 32 5

/-- The order in which the lengths of the length code are sent. -/
def lengthOrder : List Nat := [16, 17, 18, 0, 8, 7, 9, 6, 10, 5, 11, 4, 12, 3, 13, 2, 14, 1, 15]

/-- A number of code lengths, with runs of the last length and of zeros. -/
def runs (code : CodeTree) : Nat → Nat → List Nat → Bits → Option (List Nat × Bits)
  | 0, _, _, _ => none
  | fuel + 1, count, lengths, bits =>
    if lengths.length = count then some (lengths, bits)
    else if count < lengths.length then none
    else do
      let (symbol, bits) ← code.next? bits
      match symbol with
      | 16 =>
        let last ← lengths.getLast?
        let (n, bits) ← number? 2 bits
        runs code fuel count (lengths ++ List.replicate (n + 3) last) bits
      | 17 =>
        let (n, bits) ← number? 3 bits
        runs code fuel count (lengths ++ List.replicate (n + 3) 0) bits
      | 18 =>
        let (n, bits) ← number? 7 bits
        runs code fuel count (lengths ++ List.replicate (n + 11) 0) bits
      | length => runs code fuel count (lengths ++ [length]) bits

/-- Code lengths of three bits each. -/
def shortLengths : Nat → Bits → Option (List Nat × Bits)
  | 0, bits => some ([], bits)
  | n + 1, bits => do
    let (l, bits) ← number? 3 bits
    let (ls, bits) ← shortLengths n bits
    return (l :: ls, bits)

/-- A block that sends its codes. -/
def dynamicBlock (out : Array UInt8) (bits : Bits) : Option (Array UInt8 × Bits) := do
  let (literals, bits) ← number? 5 bits
  let (distances, bits) ← number? 5 bits
  let (lengths, bits) ← number? 4 bits
  if 29 < literals ∨ 29 < distances then none
  let (sent, bits) ← shortLengths (lengths + 4) bits
  let lengthOf (i : Nat) : Nat := (sent[lengthOrder.idxOf i]?).getD 0
  let code ← CodeTree.ofLengths? ((List.range 19).map lengthOf)
  let count := literals + 257 + (distances + 1)
  let (all, bits) ← runs code (count + 1) count [] bits
  codedBlock (all.take (literals + 257)) (all.drop (literals + 257)) out bits

/-- Blocks up to the last one. Each takes three bits or more. -/
def blocks : Nat → Array UInt8 → Bits → Option (Array UInt8 × Bits)
  | 0, _, _ => none
  | fuel + 1, out, bits => do
    let (last, bits) ← number? 1 bits
    let (kind, bits) ← number? 2 bits
    let (out, bits) ← match kind with
      | 0 => storedBlock out bits
      | 1 => codedBlock fixedLiterals fixedDistances out bits
      | 2 => dynamicBlock out bits
      | _ => none
    if last = 1 then return (out, bits) else blocks fuel out bits

def inflate? (bytes : List UInt8) : Option (List UInt8 × List UInt8) := do
  let bits := bitsOf bytes
  let (out, bits) ← blocks (bits.length + 1) #[] bits
  return (out.toList, bytes.drop (bytes.length - bits.length / 8))

def store (bytes : List UInt8) : List UInt8 :=
  let block (last : UInt8) (bytes : List UInt8) : List UInt8 :=
    last :: Bytes.ofNat 2 bytes.length ++ Bytes.ofNat 2 (65535 - bytes.length) ++ bytes
  if bytes.length ≤ 65535 then block 1 bytes
  else block 0 (bytes.take 65535) ++ store (bytes.drop 65535)
termination_by bytes.length
decreasing_by simp; omega

end Interconnect.Deflate
