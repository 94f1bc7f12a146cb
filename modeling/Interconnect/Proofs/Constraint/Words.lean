import Interconnect.Proofs.Constraint.Brackets
/-!
# Words of a constraint line

A line is made of words, bracketed groups and the gaps between them, and falls into these words and
groups again. Text in quotes or braces loses them. From there the parts of a written property come out
of its line.
-/
namespace Interconnect

namespace Constraint

/-- How a text stands in a line: as it is, in double quotes or in braces. -/
inductive Wrapping where
  | bare
  | quoted
  | braced
  deriving DecidableEq, Repr

def Wrapping.wrap (cs : List Char) : Wrapping → List Char
  | bare => cs
  | quoted => '"' :: (cs ++ ['"'])
  | braced => '\x7b' :: (cs ++ ['\x7d'])

/-- Whether a text does not begin as one in quotes or in braces does. -/
def BeginsBare (cs : List Char) : Prop := cs.head? ≠ some '"' ∧ cs.head? ≠ some '\x7b'

instance (cs : List Char) : Decidable (BeginsBare cs) := inferInstanceAs (Decidable (_ ∧ _))

theorem unquote?_wrap {w : Wrapping} {cs : List Char} (h : w = .bare → BeginsBare cs) :
    unquote? (w.wrap cs) = some cs := by
  cases w with
  | bare =>
    obtain ⟨hquote, hbrace⟩ := h rfl
    cases cs with
    | nil => rfl
    | cons c cs =>
      simp only [List.head?_cons, ne_eq, Option.some.injEq] at hquote hbrace
      simp [Wrapping.wrap, unquote?, hquote, hbrace]
  | quoted => simp [Wrapping.wrap, unquote?, stripLast?]
  | braced => simp [Wrapping.wrap, unquote?, stripLast?]

theorem wrap_ne_nil {w : Wrapping} {cs : List Char} (h : cs ≠ []) : w.wrap cs ≠ [] := by
  cases w <;> simp [Wrapping.wrap, h]

theorem forall_mem_wrap {P : Char → Prop} {w : Wrapping} {cs : List Char} (h : ∀ c ∈ cs, P c)
    (hquote : P '"') (hopen : P '\x7b') (hclose : P '\x7d') : ∀ c ∈ w.wrap cs, P c := by
  cases w with
  | bare => exact h
  | quoted => simpa [Wrapping.wrap, hquote, or_imp, forall_and] using h
  | braced => simpa [Wrapping.wrap, hopen, hclose, or_imp, forall_and] using h

/-! ### Balance -/

theorem wellBracketed_of_not_mem {cs : List Char} (hopen : '[' ∉ cs) (hclose : ']' ∉ cs) :
    WellBracketed cs := by
  constructor
  · intro p hp
    have hzero := excess_eq_zero (fun h => hopen (hp.subset h)) (fun h => hclose (hp.subset h))
    omega
  · exact excess_eq_zero hopen hclose

theorem WellBracketed.append {as bs : List Char} (ha : WellBracketed as) (hb : WellBracketed bs) :
    WellBracketed (as ++ bs) := by
  constructor
  · intro p hp
    rcases List.prefix_or_prefix_of_prefix hp (List.prefix_append as bs) with hshort | hlong
    · exact ha.1 p hshort
    · obtain ⟨q, rfl⟩ := hlong
      have hq := hb.1 q ((List.prefix_append_right_inj as).1 hp)
      rw [excess_append, ha.2]
      omega
  · rw [excess_append, ha.2, hb.2, Int.zero_add]

theorem WellBracketed.wrap {cs : List Char} (h : WellBracketed cs) (w : Wrapping) :
    WellBracketed (w.wrap cs) := by
  cases w with
  | bare => exact h
  | quoted =>
    have hquote : WellBracketed ['"'] := wellBracketed_of_not_mem (by decide) (by decide)
    exact hquote.append (h.append hquote)
  | braced =>
    have hopen : WellBracketed ['\x7b'] := wellBracketed_of_not_mem (by decide) (by decide)
    have hclose : WellBracketed ['\x7d'] := wellBracketed_of_not_mem (by decide) (by decide)
    exact hopen.append (h.append hclose)

/-! ### Reading words -/

section
variable {group : Bool} {word gap cs rest : List Char}

/-- Whether a text has spaces and tabs only. -/
def IsGap (gap : List Char) : Prop := ∀ c ∈ gap, c = ' ' ∨ c = '\t'

instance (gap : List Char) : Decidable (IsGap gap) := List.decidableBAll _ gap

/-- Whether no character of a text ends a word. -/
def IsSolid (group : Bool) (word : List Char) : Prop :=
  ∀ c ∈ word, c ≠ ' ' ∧ c ≠ '\t' ∧ (group = true → c ≠ '[' ∧ c ≠ ']')

instance (group : Bool) (word : List Char) : Decidable (IsSolid group word) :=
  List.decidableBAll _ word

theorem scanWords?_solid (h : IsSolid group word) (before cs : List Char) :
    scanWords? group 0 before (word ++ cs) = scanWords? group 0 (word.reverse ++ before) cs := by
  induction word generalizing before with
  | nil => rfl
  | cons c word ih =>
    obtain ⟨hspace, htab, hbracket⟩ := h c (by simp)
    have hword := ih (fun d hd => h d (by simp [hd])) (c :: before)
    cases group with
    | false => simpa [scanWords?, hspace, htab] using hword
    | true => simpa [scanWords?, hspace, htab, hbracket] using hword

theorem scanWords?_gap (hgap : IsGap gap) (hne : gap ≠ []) (before cs : List Char) :
    scanWords? group 0 before (gap ++ cs) = (words? group cs).map (finishWord before) := by
  induction gap generalizing before with
  | nil => exact absurd rfl hne
  | cons c gap ih =>
    have hc : c = ' ' ∨ c = '\t' := hgap c (by simp)
    have hbracket : c ≠ '[' ∧ c ≠ ']' := by
      rcases hc with rfl | rfl <;> decide
    have hstep : scanWords? group 0 before (c :: (gap ++ cs)) =
        (words? group (gap ++ cs)).map (finishWord before) := by
      simp [scanWords?, hc, hbracket, words?]
    rw [List.cons_append, hstep]
    by_cases hnil : gap = []
    · rw [hnil, List.nil_append]
    · have hempty : finishWord [] = id := rfl
      rw [words?, ih (fun d hd => hgap d (by simp [hd])) hnil, hempty, Option.map_id, id]

theorem words?_gap (h : IsGap gap) : words? group (gap ++ cs) = words? group cs := by
  by_cases hnil : gap = []
  · rw [hnil, List.nil_append]
  · have hempty : finishWord [] = id := rfl
    rw [words?, scanWords?_gap h hnil, hempty, Option.map_id, id]

theorem words?_word (hword : IsSolid group word) (hne : word ≠ []) :
    words? group word = some [word] := by
  have hscan := scanWords?_solid hword [] []
  simp only [List.append_nil] at hscan
  simp [words?, hscan, scanWords?, finishWord, hne]

theorem words?_word_gap (hword : IsSolid group word) (hne : word ≠ []) (hgap : IsGap gap)
    (hgapped : gap ≠ []) :
    words? group (word ++ (gap ++ rest)) = (words? group rest).map (word :: ·) := by
  rw [words?, scanWords?_solid hword, scanWords?_gap hgap hgapped]
  congr 1
  funext words
  simp [finishWord, hne]

/-- While a bracket is open, nothing ends the word. -/
theorem scanWords?_open (depth : Int) (h : ∀ p, p <+: cs → 0 < depth + excess p)
    (before rest : List Char) :
    scanWords? true depth before (cs ++ rest) =
      scanWords? true (depth + excess cs) (cs.reverse ++ before) rest := by
  induction cs generalizing depth before with
  | nil => simp
  | cons c cs ih =>
    have hdepth := h [] (List.nil_prefix)
    have hnext := h [c] (by simp)
    have htail : ∀ p, p <+: cs → 0 < depth + excess [c] + excess p := by
      intro p hp
      have hcons := h (c :: p) (List.cons_prefix_cons.2 ⟨rfl, hp⟩)
      rw [← List.singleton_append, excess_append] at hcons
      omega
    have hstep : scanWords? true depth before (c :: (cs ++ rest)) =
        scanWords? true (depth + excess [c]) (c :: before) (cs ++ rest) := by
      rw [scanWords?, excess_cons]
      by_cases hclose : c = ']'
      · have hdeep : depth ≠ 1 := by
          intro hone
          simp [hclose, hone, excess_cons] at hnext
        simp [hclose, hdeep, Int.sub_eq_add_neg]
      · by_cases hopen : c = '['
        · simp [hopen]
        · have hzero : depth ≠ 0 := by
            simp only [excess_nil] at hdepth
            omega
          simp [hclose, hopen, hzero]
    have hsplit : excess (c :: cs) = excess [c] + excess cs := excess_append [c] cs
    rw [List.cons_append, hstep, ih _ htail, hsplit, Int.add_assoc]
    simp

theorem words?_group (h : WellBracketed cs) :
    words? true ('[' :: (cs ++ ']' :: rest)) =
      (words? true rest).map (('[' :: (cs ++ [']'])) :: ·) := by
  have hopen := scanWords?_open 1 (fun p hp => by have := h.1 p hp; omega) ['['] (']' :: rest)
  simp only [h.2] at hopen
  simp [words?, scanWords?, hopen]

end

end Constraint
end Interconnect
