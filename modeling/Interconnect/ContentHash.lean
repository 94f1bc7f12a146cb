import Interconnect.Bytes.Word
/-!
# Content hash

The 128-bit XXH3 hash of a byte string, with the default secret and seed zero. Inputs are hashed by
length class: up to 16 bytes with one multiplication per word, up to 240 bytes in pairs of 16-byte
lanes, and longer ones in stripes of eight 64-bit accumulators.
-/
namespace Interconnect

/-- The sixteen bytes of a hash, low byte first. -/
structure ContentHash where
  bytes : List UInt8
  deriving DecidableEq, Repr

namespace Xxh3

def prime32x1 : UInt64 := 0x9E3779B1
def prime32x2 : UInt64 := 0x85EBCA77
def prime32x3 : UInt64 := 0xC2B2AE3D
def prime64x1 : UInt64 := 0x9E3779B185EBCA87
def prime64x2 : UInt64 := 0xC2B2AE3D27D4EB4F
def prime64x3 : UInt64 := 0x165667B19E3779F9
def prime64x4 : UInt64 := 0x85EBCA77C2B2AE63
def prime64x5 : UInt64 := 0x27D4EB2F165667C5
def mixer1 : UInt64 := 0x165667919E3779F9
def mixer2 : UInt64 := 0x9FB21C651E98DF25

def secret : List UInt8 :=
  [0xb8, 0xfe, 0x6c, 0x39, 0x23, 0xa4, 0x4b, 0xbe, 0x7c, 0x01, 0x81, 0x2c, 0xf7, 0x21, 0xad, 0x1c,
   0xde, 0xd4, 0x6d, 0xe9, 0x83, 0x90, 0x97, 0xdb, 0x72, 0x40, 0xa4, 0xa4, 0xb7, 0xb3, 0x67, 0x1f,
   0xcb, 0x79, 0xe6, 0x4e, 0xcc, 0xc0, 0xe5, 0x78, 0x82, 0x5a, 0xd0, 0x7d, 0xcc, 0xff, 0x72, 0x21,
   0xb8, 0x08, 0x46, 0x74, 0xf7, 0x43, 0x24, 0x8e, 0xe0, 0x35, 0x90, 0xe6, 0x81, 0x3a, 0x26, 0x4c,
   0x3c, 0x28, 0x52, 0xbb, 0x91, 0xc3, 0x00, 0xcb, 0x88, 0xd0, 0x65, 0x8b, 0x1b, 0x53, 0x2e, 0xa3,
   0x71, 0x64, 0x48, 0x97, 0xa2, 0x0d, 0xf9, 0x4e, 0x38, 0x19, 0xef, 0x46, 0xa9, 0xde, 0xac, 0xd8,
   0xa8, 0xfa, 0x76, 0x3f, 0xe3, 0x9c, 0x34, 0x3f, 0xf9, 0xdc, 0xbb, 0xc7, 0xc7, 0x0b, 0x4f, 0x1d,
   0x8a, 0x51, 0xe0, 0x4b, 0xcd, 0xb4, 0x59, 0x31, 0xc8, 0x9f, 0x7e, 0xc9, 0xd9, 0x78, 0x73, 0x64,
   0xea, 0xc5, 0xac, 0x83, 0x34, 0xd3, 0xeb, 0xc3, 0xc5, 0x81, 0xa0, 0xff, 0xfa, 0x13, 0x63, 0xeb,
   0x17, 0x0d, 0xdd, 0x51, 0xb7, 0xf0, 0xda, 0x49, 0xd3, 0x16, 0x55, 0x26, 0x29, 0xd4, 0x68, 0x9e,
   0x2b, 0x16, 0xbe, 0x58, 0x7d, 0x47, 0xa1, 0xfc, 0x8f, 0xf8, 0xb8, 0xd1, 0x7a, 0xd0, 0x31, 0xce,
   0x45, 0xcb, 0x3a, 0x8f, 0x95, 0x16, 0x04, 0x28, 0xaf, 0xd7, 0xfb, 0xca, 0xbb, 0x4b, 0x40, 0x7e]

/-- The word of `n` bytes at an offset. -/
def word (n : Nat) (bytes : List UInt8) (offset : Nat) : UInt64 :=
  UInt64.ofNat (Bytes.toNat ((bytes.drop offset).take n))

def key (offset : Nat) : UInt64 := word 8 secret offset

/-- The 64-bit words of a byte string, without an incomplete last one. -/
def words : List UInt8 → List UInt64
  | a :: b :: c :: d :: e :: f :: g :: h :: rest =>
    (a.toUInt64 ||| b.toUInt64 <<< 8 ||| c.toUInt64 <<< 16 ||| d.toUInt64 <<< 24 |||
      e.toUInt64 <<< 32 ||| f.toUInt64 <<< 40 ||| g.toUInt64 <<< 48 ||| h.toUInt64 <<< 56)
      :: words rest
  | _ => []

/-- The words of the secret from an offset on. -/
def keys (offset : Nat) : List UInt64 := words (secret.drop offset)

def mul128 (a b : UInt64) : UInt64 × UInt64 :=
  let p := a.toNat * b.toNat
  (UInt64.ofNat p, UInt64.ofNat (p / UInt64.size))

/-- The two halves of a full product, combined. -/
def mulFold (a b : UInt64) : UInt64 :=
  let (low, high) := mul128 a b
  low ^^^ high

def reverseBytes (n : Nat) (w : UInt64) : UInt64 :=
  UInt64.ofNat (Bytes.toNat (Bytes.ofNat n w.toNat).reverse)

def xorShift (w n : UInt64) : UInt64 := w ^^^ (w >>> n)

/-- The finishing mix of the 64-bit predecessor hash, used for the shortest inputs. -/
def scatterShort (w : UInt64) : UInt64 :=
  xorShift (xorShift (xorShift w 33 * prime64x2) 29 * prime64x3) 32

def scatter (w : UInt64) : UInt64 := xorShift (xorShift w 37 * mixer1) 32

/-- Up to three bytes. -/
def hashTiny (input : List UInt8) : UInt64 × UInt64 :=
  let n := input.length
  let byte (i : Nat) : UInt64 := word 1 input i
  let low := byte 0 <<< 16 ||| byte (n / 2) <<< 24 ||| byte (n - 1) ||| UInt64.ofNat n <<< 8
  let swapped := reverseBytes 4 low
  let high := (swapped <<< 13 ||| swapped >>> 19) &&& 0xFFFFFFFF
  (scatterShort (low ^^^ (word 4 secret 0 ^^^ word 4 secret 4)),
    scatterShort (high ^^^ (word 4 secret 8 ^^^ word 4 secret 12)))

/-- Four to eight bytes. -/
def hashSmall (input : List UInt8) : UInt64 × UInt64 :=
  let n := input.length
  let joined := word 4 input 0 + word 4 input (n - 4) <<< 32
  let keyed := joined ^^^ (key 16 ^^^ key 24)
  let (low, high) := mul128 keyed (prime64x1 + UInt64.ofNat n <<< 2)
  let high := high + low <<< 1
  let low := low ^^^ high >>> 3
  (xorShift (xorShift low 35 * mixer2) 28, scatter high)

/-- Nine to sixteen bytes. -/
def hashMedium (input : List UInt8) : UInt64 × UInt64 :=
  let n := input.length
  let first := word 8 input 0
  let last := word 8 input (n - 8)
  let (low, high) := mul128 (first ^^^ last ^^^ (key 32 ^^^ key 40)) prime64x1
  let low := low + UInt64.ofNat (n - 1) <<< 54
  let last := last ^^^ (key 48 ^^^ key 56)
  let high := high + last + (last &&& 0xFFFFFFFF) * (prime32x2 - 1)
  let low := low ^^^ reverseBytes 8 high
  let (outLow, outHigh) := mul128 low prime64x2
  (scatter outLow, scatter (outHigh + high * prime64x2))

/-- Sixteen bytes under sixteen bytes of the secret. -/
def mixLane (input : List UInt8) (start keyAt : Nat) : UInt64 :=
  mulFold (word 8 input start ^^^ key keyAt) (word 8 input (start + 8) ^^^ key (keyAt + 8))

/-- Two lanes into both halves of an accumulator. -/
def mixPair (input : List UInt8) (acc : UInt64 × UInt64) (first second keyAt : Nat) :
    UInt64 × UInt64 :=
  ((acc.1 + mixLane input first keyAt) ^^^ (word 8 input second + word 8 input (second + 8)),
    (acc.2 + mixLane input second (keyAt + 16)) ^^^ (word 8 input first + word 8 input (first + 8)))

def finishPairs (n : Nat) (acc : UInt64 × UInt64) : UInt64 × UInt64 :=
  (scatter (acc.1 + acc.2),
    0 - scatter (acc.1 * prime64x1 + acc.2 * prime64x4 + UInt64.ofNat n * prime64x2))

/-- 17 to 128 bytes, from the middle outwards. -/
def hashPairs (input : List UInt8) : UInt64 × UInt64 :=
  let n := input.length
  let rounds := (n - 1) / 32
  let start : UInt64 × UInt64 := (UInt64.ofNat n * prime64x1, 0)
  finishPairs n <| (List.range (rounds + 1)).reverse.foldl
    (fun acc i => mixPair input acc (16 * i) (n - 16 * (i + 1)) (32 * i)) start

/-- 129 to 240 bytes, from front to back. -/
def hashBlocks (input : List UInt8) : UInt64 × UInt64 :=
  let n := input.length
  let start : UInt64 × UInt64 := (UInt64.ofNat n * prime64x1, 0)
  let acc := (List.range 4).foldl
    (fun acc i => mixPair input acc (32 * i) (32 * i + 16) (32 * i)) start
  let acc := (List.range (n / 32 - 4)).foldl
    (fun acc i => mixPair input acc (32 * (i + 4)) (32 * (i + 4) + 16) (32 * i + 3))
    (scatter acc.1, scatter acc.2)
  finishPairs n (mixPair input acc (n - 16) (n - 32) 103)

def exchange : List UInt64 → List UInt64
  | a :: b :: rest => b :: a :: exchange rest
  | rest => rest

/-- The product of both halves of a word. -/
def halves (w : UInt64) : UInt64 := (w &&& (0xFFFFFFFF : UInt64)) * (w >>> 32)

/-- One stripe of eight words into the accumulators. -/
def accumulate (acc stripe keys : List UInt64) : List UInt64 :=
  let products := List.zipWith (fun d k => halves (d ^^^ k)) stripe keys
  List.zipWith (· + ·) acc (List.zipWith (· + ·) products (exchange stripe))

/-- What happens to the accumulators behind each block. -/
def scramble (acc : List UInt64) : List UInt64 :=
  List.zipWith (fun a k => (xorShift a 47 ^^^ k) * prime32x1) acc (keys 128)

/-- The stripes of a block, each under the secret moved on by one word. -/
def stripes (acc : List UInt64) : List UInt64 → List UInt64 → List UInt64
  | a :: b :: c :: d :: e :: f :: g :: h :: rest, keys =>
    stripes (accumulate acc [a, b, c, d, e, f, g, h] keys) rest (keys.drop 1)
  | _, _ => acc

/-- Whole blocks of 128 words, each but the last part followed by a scramble. -/
def blocks : Nat → List UInt64 → List UInt64 → List UInt64
  | 0, acc, rest => stripes acc rest (keys 0)
  | n + 1, acc, rest => blocks n (scramble (stripes acc (rest.take 128) (keys 0))) (rest.drop 128)

/-- The accumulators folded pairwise into one word. -/
def merge (acc : List UInt64) (keyAt : Nat) (start : UInt64) : UInt64 :=
  let folded := List.zipWith (· ^^^ ·) acc (keys keyAt)
  let rec sum : List UInt64 → UInt64
    | a :: b :: rest => mulFold a b + sum rest
    | _ => 0
  scatter (start + sum folded)

/-- More than 240 bytes. -/
def hashLong (input : List UInt8) : UInt64 × UInt64 :=
  let n := input.length
  let start := [prime32x3, prime64x1, prime64x2, prime64x3, prime64x4, prime32x2, prime64x5,
    prime32x1]
  let whole := words (input.take (64 * ((n - 1) / 64)))
  let acc := blocks ((n - 1) / 1024) start whole
  let acc := accumulate acc (words (input.drop (n - 64))) (keys 121)
  (merge acc 11 (UInt64.ofNat n * prime64x1), merge acc 117 (~~~(UInt64.ofNat n * prime64x2)))

def hash (input : List UInt8) : UInt64 × UInt64 :=
  let n := input.length
  if n = 0 then (scatterShort (key 64 ^^^ key 72), scatterShort (key 80 ^^^ key 88))
  else if n ≤ 3 then hashTiny input
  else if n ≤ 8 then hashSmall input
  else if n ≤ 16 then hashMedium input
  else if n ≤ 128 then hashPairs input
  else if n ≤ 240 then hashBlocks input
  else hashLong input

end Xxh3

namespace ContentHash

def ofBytes (input : List UInt8) : ContentHash :=
  let (low, high) := Xxh3.hash input
  ⟨Bytes.ofNat 8 low.toNat ++ Bytes.ofNat 8 high.toNat⟩

def ofText (text : String) : ContentHash := ofBytes text.toUTF8.data.toList

/-- Two hexadecimal digits for each stored byte. -/
def toHex (h : ContentHash) : String := Bytes.toHex h.bytes

/-- The first two bytes, for log output. -/
def summary (h : ContentHash) : String := s!"ContentHash({Bytes.toHex (h.bytes.take 2)}..)"

theorem length_bytes_ofBytes (input : List UInt8) : (ofBytes input).bytes.length = 16 := by
  simp [ofBytes]

end ContentHash
end Interconnect
