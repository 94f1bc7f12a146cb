import Interconnect.Codec
import Interconnect.Fault
import Mathlib.Data.List.Basic
import Mathlib.Tactic.Common
/-!
# Codecs read back what they write

A codec reads back the values of a class when it consumes exactly the bytes written for such a
value, whatever stands behind them. Pairs, options and tables of codecs that read back do so too, so
the law of a record follows from the laws of its fields.
-/
namespace Interconnect.Codec

variable {α β : Type} {P : α → Prop} {Q : β → Prop}

/-- Reading in front of any other bytes returns the written value and leaves those bytes. -/
def ReadsBack (c : Codec α) (P : α → Prop) : Prop :=
  ∀ a, P a → ∀ rest, c.read (c.write a ++ rest) = .ok (a, rest)

def TableFits (P : α → Prop) (as : Array α) : Prop := as.size < UInt64.size ∧ ∀ a ∈ as, P a

instance [DecidablePred P] (as : Array α) : Decidable (TableFits P as) :=
  inferInstanceAs (Decidable (_ ∧ _))

def OptionFits (P : α → Prop) (o : Option α) : Prop := ∀ a ∈ o, P a

instance [DecidablePred P] (o : Option α) : Decidable (OptionFits P o) :=
  inferInstanceAs (Decidable (∀ a ∈ o, P a))

def NatFits (n : Nat) : Prop := n < UInt32.size

instance (n : Nat) : Decidable (NatFits n) := inferInstanceAs (Decidable (_ < _))

def TextFits (s : String) : Prop := s.utf8ByteSize < textLimit

instance (s : String) : Decidable (TextFits s) := inferInstanceAs (Decidable (_ < _))

/-! ## Numbers -/

theorem takeExactly_append {front : List UInt8} {n : Nat} (h : front.length = n)
    (rest : List UInt8) : takeExactly n (front ++ rest) = .ok (front, rest) := by
  subst h
  simp [takeExactly]

theorem readWord_ofNat {n v : Nat} (h : v < Nat.pow 256 n) (rest : List UInt8) :
    readWord n (Bytes.ofNat n v ++ rest) = .ok (v, rest) := by
  rw [readWord, takeExactly_append (Bytes.length_ofNat n v)]
  simp [Except.map, Bytes.toNat_ofNat_of_lt h]

theorem readNumber_writeNumber {wide : Bool} {n : Nat} (hn : n < UInt64.size)
    (hwide : wide = false → n < UInt32.size) (rest : List UInt8) :
    readNumber wide (writeNumber n ++ rest) = .ok (n, rest) := by
  unfold writeNumber
  split
  case isTrue hbyte =>
    have small : (UInt8.ofNat n).toNat = n := by simp; omega
    simp [readNumber, small, hbyte]
  case isFalse =>
    split
    case isTrue h16 =>
      have h : n < Nat.pow 256 2 := h16
      simpa [readNumber] using readWord_ofNat h rest
    case isFalse =>
      split
      case isTrue h32 =>
        have h : n < Nat.pow 256 4 := h32
        simpa [readNumber] using readWord_ofNat h rest
      case isFalse h32 =>
        have hw : wide = true := by
          by_contra narrow
          exact h32 (hwide (by simpa using narrow))
        have h : n < Nat.pow 256 8 := hn
        simpa [readNumber, hw] using readWord_ofNat h rest

theorem nat_readsBack : nat.ReadsBack NatFits := by
  intro n hn rest
  have hn : n < UInt32.size := hn
  have h64 : n < UInt64.size := Nat.lt_trans hn (by decide)
  exact readNumber_writeNumber h64 (fun _ => hn) rest

theorem length_readsBack : length.ReadsBack (· < UInt64.size) := by
  intro n hn rest
  exact readNumber_writeNumber hn (by simp) rest

@[simp] theorem unzigzag_zigzag (i : Int) : unzigzag (zigzag i) = i := by
  unfold unzigzag zigzag
  split <;> split <;> omega

theorem zigzag_lt {i : Int} (h : FitsWord i) : zigzag i < UInt32.size := by
  have low := h.1
  have high := h.2
  have size : UInt32.size = 4294967296 := rfl
  unfold zigzag
  split <;> omega

/-! ## Combinations -/

theorem ReadsBack.through {c : Codec β} {there : α → β} {back : β → α} (hc : c.ReadsBack Q)
    (fits : ∀ a, P a → Q (there a)) (inverse : ∀ a, back (there a) = a) :
    (c.through there back).ReadsBack P := by
  intro a ha rest
  simp [Codec.through, hc _ (fits a ha), Except.map, inverse]

theorem int_readsBack : int.ReadsBack FitsWord :=
  nat_readsBack.through (fun _ => zigzag_lt) unzigzag_zigzag

theorem ReadsBack.pair {a : Codec α} {b : Codec β} (ha : a.ReadsBack P) (hb : b.ReadsBack Q) :
    (pair a b).ReadsBack fun p => P p.1 ∧ Q p.2 := by
  intro p hp rest
  simp [Codec.pair, ha p.1 hp.1, hb p.2 hp.2, bind, Except.bind, pure, Except.pure]

theorem bool_readsBack : bool.ReadsBack fun _ => True := by
  intro b _ rest
  cases b <;> rfl

theorem ReadsBack.option {c : Codec α} (hc : c.ReadsBack P) : (option c).ReadsBack (OptionFits P) := by
  intro o ho rest
  cases o with
  | none => rfl
  | some a => simp [Codec.option, hc a (ho a rfl), Except.map]

theorem readMany_flatMap {c : Codec α} (hc : c.ReadsBack P) {as : List α} (has : ∀ a ∈ as, P a)
    (rest : List UInt8) : readMany c as.length (as.flatMap c.write ++ rest) = .ok (as, rest) := by
  induction as with
  | nil => rfl
  | cons a as ih =>
    have head : P a := has a (by simp)
    have tail : ∀ b ∈ as, P b := fun b hb => has b (by simp [hb])
    simp [readMany, hc a head, ih tail, bind, Except.bind, pure, Except.pure]

theorem ReadsBack.array {c : Codec α} (hc : c.ReadsBack P) : (array c).ReadsBack (TableFits P) := by
  intro as has rest
  have entries : ∀ a ∈ as.toList, P a := fun a ha => has.2 a (Array.mem_toList_iff.1 ha)
  have many := readMany_flatMap hc entries rest
  rw [Array.length_toList] at many
  have size := length_readsBack as.size has.1
  simp [Codec.array, size, many, bind, Except.bind, pure, Except.pure]

theorem fromUTF8?_toByteArray (s : String) : String.fromUTF8? s.toByteArray = some s := by
  simp [String.fromUTF8?, s.isValidUTF8, String.fromUTF8]

theorem text_readsBack : text.ReadsBack TextFits := by
  intro s hs rest
  have size := length_readsBack s.utf8ByteSize (Nat.lt_trans hs (by decide))
  have room : ¬ textLimit ≤ s.utf8ByteSize := Nat.not_le.2 hs
  have front : takeExactly s.utf8ByteSize (s.toByteArray.data.toList ++ rest) =
      .ok (s.toByteArray.data.toList, rest) := takeExactly_append rfl rest
  have whole : String.fromUTF8? ⟨s.toByteArray.data⟩ = some s := fromUTF8?_toByteArray s
  simp [Codec.text, size, room, front, whole, bind, Except.bind, pure, Except.pure]

theorem oneOf_readsBack [BEq α] [LawfulBEq α] {values : List α}
    (short : values.length ≤ UInt32.size) : (oneOf values).ReadsBack (· ∈ values) := by
  intro a ha rest
  have place : values.idxOf a < UInt32.size :=
    Nat.lt_of_lt_of_le (List.idxOf_lt_length_iff.2 ha) short
  have found : values[values.idxOf a]? = some a := List.getElem?_idxOf ha
  have front := nat_readsBack (values.idxOf a) place rest
  change nat.read (writeNumber _ ++ rest) = _ at front
  simp [oneOf, front, found, bind, Except.bind, pure, Except.pure]

end Interconnect.Codec
