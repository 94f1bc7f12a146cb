/-!
# Words in bytes

Little-endian words and their lower-case hexadecimal text.
-/
namespace Interconnect.Bytes

/-- The `n` lowest bytes of a number, lowest first. -/
def ofNat : Nat → Nat → List UInt8
  | 0, _ => []
  | n + 1, v => UInt8.ofNat v :: ofNat n (v / 256)

def toNat : List UInt8 → Nat
  | [] => 0
  | b :: bs => b.toNat + 256 * toNat bs

@[simp] theorem length_ofNat (n v : Nat) : (ofNat n v).length = n := by
  induction n generalizing v with
  | zero => rfl
  | succ n ih => simp [ofNat, ih]

theorem toNat_ofNat (n v : Nat) : toNat (ofNat n v) = v % Nat.pow 256 n := by
  induction n generalizing v with
  | zero => exact (Nat.mod_one v).symm
  | succ n ih =>
    have split : v % Nat.pow 256 (n + 1) = v % 256 + 256 * (v / 256 % Nat.pow 256 n) := by
      rw [Nat.pow_eq, Nat.pow_succ', Nat.mod_mul]
      rfl
    rw [ofNat, toNat, ih, UInt8.toNat_ofNat', split]

theorem toNat_ofNat_of_lt {n v : Nat} (h : v < Nat.pow 256 n) : toNat (ofNat n v) = v := by
  rw [toNat_ofNat, Nat.mod_eq_of_lt h]

def hexDigit (n : Nat) : Char := if n < 10 then Char.ofNat (48 + n) else Char.ofNat (87 + n)

/-- Two hexadecimal digits per byte, high digit first. -/
def toHex (bytes : List UInt8) : String :=
  String.ofList (bytes.flatMap fun b => [hexDigit (b.toNat / 16), hexDigit (b.toNat % 16)])

def hexValue? (c : Char) : Option Nat :=
  let n := c.toNat
  if 48 ≤ n ∧ n ≤ 57 then some (n - 48)
  else if 97 ≤ n ∧ n ≤ 102 then some (n - 87)
  else if 65 ≤ n ∧ n ≤ 70 then some (n - 55)
  else none

/-- The bytes that a text of hexadecimal digit pairs writes. -/
def ofHex? : List Char → Option (List UInt8)
  | [] => some []
  | [_] => none
  | a :: b :: rest => do
    let high ← hexValue? a
    let low ← hexValue? b
    let bytes ← ofHex? rest
    return UInt8.ofNat (16 * high + low) :: bytes

end Interconnect.Bytes
