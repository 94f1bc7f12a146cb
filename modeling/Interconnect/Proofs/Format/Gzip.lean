import Interconnect.Gzip.Container
import Mathlib.Algebra.GroupWithZero.Nat
import Mathlib.Data.Nat.Bits
import Mathlib.Tactic.Common
/-!
# Stored blocks inflate to what they store

Bytes that are stored and not coded come back from inflating, and so do the contents of a gzip file
made of them.
-/
namespace Interconnect.Deflate

/-! ## Bits of bytes -/

theorem bitsOf_append (as bs : List UInt8) : bitsOf (as ++ bs) = bitsOf as ++ bitsOf bs :=
  List.flatMap_append ..

@[simp] theorem length_bitsOf (bytes : List UInt8) : (bitsOf bytes).length = 8 * bytes.length := by
  induction bytes with
  | nil => rfl
  | cons b bytes ih =>
    simp only [bitsOf, List.flatMap_cons, List.length_append, List.length_map, List.length_range,
      List.length_cons] at ih ⊢
    omega

theorem bitsOf_ofNat (n v : Nat) :
    bitsOf (Bytes.ofNat n v) = (List.range (8 * n)).map v.testBit := by
  induction n generalizing v with
  | zero => rfl
  | succ n ih =>
    have low : (List.range 8).map (UInt8.ofNat v).toNat.testBit = (List.range 8).map v.testBit := by
      apply List.map_congr_left
      intro i hi
      have hi : i < 8 := by simpa using hi
      rw [UInt8.toNat_ofNat', Nat.testBit_mod_two_pow]
      simp [hi]
    have high : bitsOf (Bytes.ofNat n (v / 256)) =
        (List.range (8 * n)).map fun i => v.testBit (8 + i) := by
      rw [ih]
      apply List.map_congr_left
      intro i _
      rw [show (256 : Nat) = 2 ^ 8 from rfl, Nat.testBit_div_two_pow, Nat.add_comm]
    change (List.range 8).map _ ++ bitsOf (Bytes.ofNat n (v / 256)) = _
    rw [low, high, show 8 * (n + 1) = 8 + 8 * n by omega, List.range_add]
    simp [Function.comp_def]

theorem number?_testBit (n v : Nat) (rest : Bits) :
    number? n ((List.range n).map v.testBit ++ rest) = some (v % 2 ^ n, rest) := by
  induction n generalizing v with
  | zero => simp [number?, Nat.mod_one]
  | succ n ih =>
    have bits : (List.range (n + 1)).map v.testBit =
        v.testBit 0 :: (List.range n).map (v / 2).testBit := by
      simp [List.range_succ_eq_map, Function.comp_def, Nat.testBit_succ]
    have value : 2 * (v / 2 % 2 ^ n) + (v.testBit 0).toNat = v % 2 ^ (n + 1) := by
      rw [Nat.pow_succ', Nat.mod_mul, Nat.toNat_testBit, Nat.pow_zero, Nat.div_one, Nat.add_comm]
    rw [bits, List.cons_append, number?, ih, ← value]
    rfl

theorem number?_ofNat {n v : Nat} (h : v < 2 ^ (8 * n)) (rest : Bits) :
    number? (8 * n) (bitsOf (Bytes.ofNat n v) ++ rest) = some (v, rest) := by
  rw [bitsOf_ofNat, number?_testBit, Nat.mod_eq_of_lt h]

theorem bytes?_bitsOf (bytes : List UInt8) (rest : Bits) :
    bytes? bytes.length (bitsOf bytes ++ rest) = some (bytes, rest) := by
  induction bytes with
  | nil => rfl
  | cons b bytes ih =>
    have first : number? 8 ((List.range 8).map b.toNat.testBit ++ (bitsOf bytes ++ rest)) =
        some (b.toNat, bitsOf bytes ++ rest) := by
      rw [number?_testBit, Nat.mod_eq_of_lt b.toNat_lt]
    have bits : bitsOf (b :: bytes) ++ rest =
        (List.range 8).map b.toNat.testBit ++ (bitsOf bytes ++ rest) := List.append_assoc ..
    rw [bits, List.length_cons, bytes?, first]
    simp [ih]

/-! ## Stored blocks -/

/-- A stored block: whether it is the last, its length and the length's complement, its bytes. -/
def stored (last : UInt8) (bytes : List UInt8) : List UInt8 :=
  last :: Bytes.ofNat 2 bytes.length ++ Bytes.ofNat 2 (65535 - bytes.length) ++ bytes

theorem store_of_le {bytes : List UInt8} (h : bytes.length ≤ 65535) :
    store bytes = stored 1 bytes := by
  rw [store, if_pos h]
  rfl

theorem store_of_lt {bytes : List UInt8} (h : 65535 < bytes.length) :
    store bytes = stored 0 (bytes.take 65535) ++ store (bytes.drop 65535) := by
  rw [store, if_neg (Nat.not_le.2 h)]
  rfl

/-- The bits of a stored block stand behind its header of three bits, at the next whole byte. -/
theorem storedBlock_bits {bytes : List UInt8} (h : bytes.length ≤ 65535) (out : Array UInt8)
    (padding : Bits) (hp : padding.length = 5) (rest : List UInt8) :
    storedBlock out (padding ++ bitsOf (Bytes.ofNat 2 bytes.length ++
      Bytes.ofNat 2 (65535 - bytes.length) ++ bytes ++ rest)) =
      some (out ++ bytes, bitsOf rest) := by
  have whole : align (padding ++ bitsOf (Bytes.ofNat 2 bytes.length ++
      Bytes.ofNat 2 (65535 - bytes.length) ++ bytes ++ rest)) =
      bitsOf (Bytes.ofNat 2 bytes.length) ++ (bitsOf (Bytes.ofNat 2 (65535 - bytes.length)) ++
        (bitsOf bytes ++ bitsOf rest)) := by
    have five : (padding.length + 8 * (Bytes.ofNat 2 bytes.length ++
        Bytes.ofNat 2 (65535 - bytes.length) ++ bytes ++ rest).length) % 8 = padding.length := by
      omega
    rw [align, List.length_append, length_bitsOf, five, List.drop_left]
    simp only [bitsOf_append, List.append_assoc]
  have length := number?_ofNat (n := 2) (v := bytes.length) (by omega)
    (bitsOf (Bytes.ofNat 2 (65535 - bytes.length)) ++ (bitsOf bytes ++ bitsOf rest))
  have check := number?_ofNat (n := 2) (v := 65535 - bytes.length) (by omega)
    (bitsOf bytes ++ bitsOf rest)
  have fits : bytes.length + (65535 - bytes.length) = 65535 := by omega
  rw [storedBlock, whole, length]
  simp [check, fits, bytes?_bitsOf]

theorem blocks_stored {bytes : List UInt8} (h : bytes.length ≤ 65535) (fuel : Nat)
    (out : Array UInt8) (last : Bool) (rest : List UInt8) :
    blocks (fuel + 1) out (bitsOf (stored (if last then 1 else 0) bytes ++ rest)) =
      if last then some (out ++ bytes, bitsOf rest) else blocks fuel (out ++ bytes) (bitsOf rest) := by
  have header : bitsOf (stored (if last then 1 else 0) bytes ++ rest) =
      last :: false :: false :: (List.replicate 5 false ++ bitsOf (Bytes.ofNat 2 bytes.length ++
        Bytes.ofNat 2 (65535 - bytes.length) ++ bytes ++ rest)) := by
    cases last <;> rfl
  have block := storedBlock_bits h out (List.replicate 5 false) rfl rest
  have flag (bits : Bits) : number? 1 (last :: bits) = some (last.toNat, bits) := by
    simp [number?]
  have kind (bits : Bits) : number? 2 (false :: false :: bits) = some (0, bits) := by
    simp [number?]
  rw [header]
  simp only [blocks, flag, kind, block, Option.bind_eq_bind, Option.bind_some]
  cases last <;> rfl

theorem blocks_store (bytes : List UInt8) (fuel : Nat) (hf : bytes.length < fuel)
    (out : Array UInt8) (rest : List UInt8) :
    blocks fuel out (bitsOf (store bytes ++ rest)) = some (out ++ bytes, bitsOf rest) := by
  obtain ⟨fuel, rfl⟩ : ∃ n, fuel = n + 1 := Nat.exists_eq_add_one.2 (by omega)
  rcases Nat.lt_or_ge 65535 bytes.length with more | one
  case inl =>
    have front : (bytes.take 65535).length ≤ 65535 := List.length_take_le ..
    have back : (bytes.drop 65535).length < fuel := by
      rw [List.length_drop]
      omega
    have step := blocks_stored front fuel out false (store (bytes.drop 65535) ++ rest)
    have later := blocks_store (bytes.drop 65535) fuel back (out ++ bytes.take 65535) rest
    have whole : out ++ bytes.take 65535 ++ bytes.drop 65535 = out ++ bytes := by
      apply Array.toList_inj.1
      simp
    rw [store_of_lt more, List.append_assoc]
    exact step.trans (later.trans (by rw [whole]))
  case inr =>
    rw [store_of_le one]
    exact blocks_stored one fuel out true rest
termination_by bytes.length
decreasing_by
  rw [List.length_drop]
  omega

theorem length_le_length_store (bytes : List UInt8) : bytes.length ≤ (store bytes).length := by
  rcases Nat.lt_or_ge 65535 bytes.length with more | one
  case inl =>
    have later := length_le_length_store (bytes.drop 65535)
    rw [store_of_lt more]
    simp [stored] at later ⊢
    omega
  case inr =>
    simp [store_of_le one, stored]
    omega
termination_by bytes.length
decreasing_by
  rw [List.length_drop]
  omega

theorem inflate?_store (bytes rest : List UInt8) :
    inflate? (store bytes ++ rest) = some (bytes, rest) := by
  have fuel : bytes.length < (bitsOf (store bytes ++ rest)).length + 1 := by
    have := length_le_length_store bytes
    rw [length_bitsOf, List.length_append]
    omega
  have behind : (store bytes ++ rest).drop
      ((store bytes ++ rest).length - (bitsOf rest).length / 8) = rest := by
    have at_end : (store bytes ++ rest).length - (bitsOf rest).length / 8 =
        (store bytes).length := by
      rw [length_bitsOf, List.length_append]
      omega
    rw [at_end, List.drop_left]
  have inflated := blocks_store bytes _ fuel #[] rest
  simp only [inflate?, inflated, Option.bind_eq_bind, Option.bind_some, behind]
  simp

end Interconnect.Deflate

namespace Interconnect.Gzip

theorem skipHeader?_plain (rest : List UInt8) :
    skipHeader? (magic ++ [8, 0, 0, 0, 0, 0, 0, 255] ++ rest) = some rest := by
  have ten : skip? 10 (magic ++ [8, 0, 0, 0, 0, 0, 0, 255] ++ rest) = some rest := by
    simp [skip?, magic]
  rw [skipHeader?, ten]
  rfl

theorem decompress?_compress (contents : List UInt8) :
    decompress? (compress contents) = some contents := by
  have sum : Bytes.toNat (Bytes.ofNat 4 (Crc32.ofBytes contents).toNat) =
      (Crc32.ofBytes contents).toNat := Bytes.toNat_ofNat_of_lt (UInt32.toNat_lt _)
  have size : Bytes.toNat (Bytes.ofNat 4 contents.length) = contents.length % UInt32.size :=
    Bytes.toNat_ofNat 4 contents.length
  have header := skipHeader?_plain (Deflate.store contents ++
    (Bytes.ofNat 4 (Crc32.ofBytes contents).toNat ++ Bytes.ofNat 4 contents.length))
  have inflated := Deflate.inflate?_store contents
    (Bytes.ofNat 4 (Crc32.ofBytes contents).toNat ++ Bytes.ofNat 4 contents.length)
  have front : (Bytes.ofNat 4 (Crc32.ofBytes contents).toNat ++
      Bytes.ofNat 4 contents.length).take 4 = Bytes.ofNat 4 (Crc32.ofBytes contents).toNat :=
    List.take_left' (Bytes.length_ofNat ..)
  have back : (Bytes.ofNat 4 (Crc32.ofBytes contents).toNat ++
      Bytes.ofNat 4 contents.length).drop 4 = Bytes.ofNat 4 contents.length :=
    List.drop_left' (Bytes.length_ofNat ..)
  have whole : (Bytes.ofNat 4 contents.length).take 4 = Bytes.ofNat 4 contents.length :=
    List.take_of_length_le (by simp)
  rw [compress, List.append_assoc, List.append_assoc, decompress?, header]
  simp [inflated, front, back, whole, sum, size]

theorem magic_of_decompress? {file bytes : List UInt8} (h : decompress? file = some bytes) :
    file.take 2 = magic := by
  obtain ⟨body, header, -⟩ := Option.bind_eq_some_iff.1 h
  obtain ⟨rest, -, fields⟩ := Option.bind_eq_some_iff.1 header
  split at fields
  · rfl
  · cases fields

end Interconnect.Gzip
