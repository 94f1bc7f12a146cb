import Interconnect.Proofs.Constraint.Lines
import Mathlib.Data.List.Infix
/-!
# Brackets of a constraint line

A line is read with one count of the brackets that are open. At its end the count has to be zero, so a
line is refused exactly where it opens and closes different numbers of brackets. Lines that open what
they have closed before are not balanced and pass all the same.
-/
namespace Interconnect

namespace Constraint

/-- How many brackets a text opens beyond those it closes. -/
def excess (cs : List Char) : Int := cs.count '[' - cs.count ']'

/-- Whether each bracket that closes follows one that opens, and none stays open. -/
def WellBracketed (cs : List Char) : Prop := (∀ p, p <+: cs → 0 ≤ excess p) ∧ excess cs = 0

instance (cs : List Char) : Decidable (WellBracketed cs) :=
  decidable_of_iff ((∀ p ∈ cs.inits, 0 ≤ excess p) ∧ excess cs = 0)
    (by simp only [List.mem_inits, WellBracketed])

variable {line : Nat} {cs : List Char}

@[simp] theorem excess_nil : excess [] = 0 := rfl

theorem excess_cons (c : Char) (cs : List Char) :
    excess (c :: cs) = excess cs + (if c = '[' then 1 else 0) - (if c = ']' then 1 else 0) := by
  simp only [excess, List.count_cons, beq_iff_eq]
  split <;> split <;> omega

theorem excess_append (as bs : List Char) : excess (as ++ bs) = excess as + excess bs := by
  simp only [excess, List.count_append]
  omega

theorem excess_reverse (cs : List Char) : excess cs.reverse = excess cs := by
  simp [excess]

theorem excess_eq_zero (hopen : '[' ∉ cs) (hclose : ']' ∉ cs) : excess cs = 0 := by
  simp [excess, List.count_eq_zero_of_not_mem, hopen, hclose]

theorem excess_dropWhile_return (cs : List Char) :
    excess (cs.dropWhile (· = '\r')) = excess cs := by
  induction cs with
  | nil => rfl
  | cons c cs ih =>
    by_cases hc : c = '\r'
    · simp [hc, ih, excess_cons]
    · simp [hc]

theorem isSome_scanWords?_iff (depth : Int) (word cs : List Char) :
    (scanWords? true depth word cs).isSome ↔ depth + excess cs = 0 := by
  induction cs generalizing depth word with
  | nil =>
    by_cases hdepth : depth = 0 <;> simp [scanWords?, hdepth]
  | cons c cs ih =>
    by_cases hclose : c = ']'
    · have hword : (scanWords? true depth word (c :: cs)).isSome ↔ depth - 1 + excess cs = 0 := by
        by_cases hdepth : depth = 1
        · simp [scanWords?, hclose, hdepth, ih]
        · simp [scanWords?, hclose, hdepth, ih]
      have hbracket : ']' ≠ '[' := by decide
      rw [hword, excess_cons, if_pos hclose, hclose, if_neg hbracket]
      omega
    · by_cases hopen : c = '['
      · have hword : (scanWords? true depth word (c :: cs)).isSome ↔ depth + 1 + excess cs = 0 := by
          simp [scanWords?, hopen, ih]
        rw [hword, excess_cons, if_pos hopen, if_neg hclose]
        omega
      · rw [excess_cons, if_neg hopen, if_neg hclose, Int.add_zero, Int.sub_zero]
        by_cases hgap : (c = ' ' ∨ c = '\t') ∧ depth = 0
        · simp [scanWords?, hclose, hopen, hgap, ih]
        · simp [scanWords?, hclose, hopen, hgap, ih]

/-- A text falls into words exactly if it opens as many brackets as it closes. -/
theorem isSome_words?_iff : (words? true cs).isSome ↔ excess cs = 0 := by
  rw [words?, isSome_scanWords?_iff, Int.zero_add]

theorem excess_of_all_blank (h : cs.all Text.isBlank = true) : excess cs = 0 := by
  have hne (c : Char) (hc : Text.isBlank c = false) : c ∉ cs := fun hmem => by
    simp [List.all_eq_true.1 h c hmem] at hc
  exact excess_eq_zero (hne '[' (by decide)) (hne ']' (by decide))

theorem ofLine_eq_unbalanced_iff {line' : Nat} :
    ofLine line cs = .error (.unbalanced line') ↔
      line' = line ∧ excess (uncomment cs) ≠ 0 := by
  have htrim : excess ((uncomment cs).reverse.dropWhile (· = '\r')).reverse =
      excess (uncomment cs) := by
    rw [excess_reverse, excess_dropWhile_return, excess_reverse]
  unfold ofLine
  simp only
  split
  · next hblank => simp [excess_of_all_blank hblank]
  · split
    · next hnone =>
      have huneven := isSome_words?_iff.not.1 (by rw [hnone]; simp)
      rw [htrim] at huneven
      simp [huneven, eq_comm]
    · next hnil =>
      have heven := isSome_words?_iff.1 (by rw [hnil]; rfl)
      rw [htrim] at heven
      simp [heven]
    · next command arguments hwords =>
      have heven := isSome_words?_iff.1 (by rw [hwords]; rfl)
      rw [htrim] at heven
      simp only [heven, ne_eq, not_true_eq_false, and_false, iff_false]
      intro h
      split at h
      · rcases ofArguments_error h with h | h | ⟨target, h⟩ <;> cases h
      · cases h

end Constraint

open Constraint

/-- Brackets are refused where their numbers differ, so that a text for which this and balance are not
the same opens as many as it closes, but one too late. The error is at the first line with such
brackets outside its comment, if the lines before that one are applied. -/
theorem uneven_brackets_reported (n : Netlist) (log : Log) (file text : String) (line : Nat) :
    (∀ cs, (words? true cs).isSome ↔ excess cs = 0) ∧
    (∀ cs, ((words? true cs).isSome ↔ WellBracketed cs) ↔
      ¬ (excess cs = 0 ∧ ∃ p, p <+: cs ∧ excess p < 0)) ∧
    ((n.constrainText log file text).result = .error (.unbalanced line) ↔
      ∃ before cs after count, Text.lines text.toList = before ++ cs :: after ∧
        line = before.length + 1 ∧ excess (uncomment cs) ≠ 0 ∧
        (n.constrainText log file (String.ofList (Text.ofLines before))).result = .ok count) := by
  refine ⟨fun cs => isSome_words?_iff, fun cs => ?_, ?_⟩
  · rw [isSome_words?_iff, WellBracketed]
    constructor
    · intro h ⟨heven, p, hp, hlow⟩
      have := (h.1 heven).1 p hp
      omega
    · intro h
      constructor
      · intro heven
        refine ⟨fun p hp => ?_, heven⟩
        by_contra hlow
        exact h ⟨heven, p, hp, by omega⟩
      · exact And.right
  · constructor
    · intro h
      obtain ⟨before, cs, after, count, hlines, herror, hbefore⟩ :=
        Netlist.exists_of_constrainLines_error h
      obtain ⟨hline, huneven⟩ := ofLine_eq_unbalanced_iff.1 herror
      refine ⟨before, cs, after, count, hlines, by omega, huneven, ?_⟩
      rw [Netlist.constrainText_ofLines hlines, hbefore]
    · intro ⟨before, cs, after, count, hlines, hline, huneven, hbefore⟩
      rw [Netlist.constrainText_ofLines hlines] at hbefore
      have herror : ofLine (1 + before.length) cs = .error (.unbalanced line) :=
        ofLine_eq_unbalanced_iff.2 ⟨by omega, huneven⟩
      simp only [Netlist.constrainText, hlines, Netlist.constrainLines_append, hbefore,
        Netlist.constrainLines, herror]

/-- The value opens a bracket that it has closed before; the line is applied. -/
theorem late_bracket_accepted :
    ¬ WellBracketed "set_property PACKAGE_PIN ]E3[ [get_ports clk]".toList ∧
    (words? true "set_property PACKAGE_PIN ]E3[ [get_ports clk]".toList).isSome ∧
    let out := clockPortNetlist.constrainText {} "top.xdc"
      "set_property PACKAGE_PIN ]E3[ [get_ports clk]"
    out.result = .ok 1 ∧ (out.netlist.cells[0]?).bind (·.attrs["PACKAGE_PIN"]?) = some "]E3[" := by
  refine ⟨by decide +kernel, by decide +kernel, ?_⟩
  simp only
  decide +kernel

end Interconnect
