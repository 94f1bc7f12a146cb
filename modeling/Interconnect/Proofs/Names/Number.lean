import Interconnect.Text.Number
/-!
# Numbers read back

A number is written in decimal, without a sign and without leading zeros. What is written is read
back as the number, as long as the number has 32 bits.
-/
namespace Interconnect.Text

variable {c : Char} {cs : List Char} {n m : Nat}

theorem digit?_of_isDigit (h : c.isDigit = true) : digit? c = some (c.toNat - '0'.toNat) := by
  have hbounds : 48 ≤ c.toNat ∧ c.toNat ≤ 57 := by
    simpa [Char.isDigit, UInt32.le_iff_toNat_le] using h
  exact if_pos hbounds

theorem digits?_of_isDigit (h : ∀ c ∈ cs, c.isDigit = true) :
    digits? n cs = some (Nat.ofDigitChars 10 cs n) := by
  induction cs generalizing n with
  | nil => rfl
  | cons c cs ih =>
    rw [digits?, digit?_of_isDigit (h c (by simp))]
    exact ih fun x hx => h x (by simp [hx])

theorem isDigit_of_mem_toString (h : c ∈ (toString n).toList) : c.isDigit = true := by
  rw [Nat.toString_eq_ofList_toDigits, String.toList_ofList] at h
  exact Nat.isDigit_of_mem_toDigits (by decide) (by decide) h

theorem not_mem_toString (h : c.isDigit = false) : c ∉ (toString n).toList := by
  intro hmem
  rw [isDigit_of_mem_toString hmem] at h
  cases h

theorem index?_of_ne_plus {rest : List Char} (hc : c ≠ '+') :
    index? (c :: rest) = (digits? 0 (c :: rest)).filter (· < UInt32.size) := by
  unfold index?
  split
  next heq => exact absurd (List.cons.inj heq).1 hc
  next =>
    simp only [List.isEmpty_cons, Bool.false_eq_true, if_false]
    cases digits? 0 (c :: rest) with
    | none => rfl
    | some n => by_cases h : n < UInt32.size <;> simp [Option.filter, h]

theorem index?_toString (h : n < UInt32.size) : index? (toString n).toList = some n := by
  have hdigits : (toString n).toList = Nat.toDigits 10 n := by
    rw [Nat.toString_eq_ofList_toDigits, String.toList_ofList]
  have hread : digits? 0 (toString n).toList = some n := by
    rw [digits?_of_isDigit fun c hc => isDigit_of_mem_toString hc, hdigits,
      Nat.ofDigitChars_ten_toDigits]
  have hplus : '+' ∉ (toString n).toList := not_mem_toString rfl
  cases hcs : (toString n).toList with
  | nil => exact absurd (hdigits.symm.trans hcs) Nat.toDigits_ne_nil
  | cons c cs =>
    rw [hcs] at hread hplus
    rw [index?_of_ne_plus (Ne.symm (List.ne_of_not_mem_cons hplus)), hread]
    exact if_pos (decide_eq_true h)

end Interconnect.Text
