/-!
# Lines of a text
-/
namespace Interconnect.Text

/-- The lines of a text without their ends. A text that ends with a line end has no empty line
behind it. -/
def lines : List Char → List (List Char)
  | [] => []
  | c :: cs =>
    if c = '\n' then [] :: lines cs
    else match lines cs with
      | [] => [[c]]
      | first :: rest => (c :: first) :: rest

/-- Lines of texts add up, if the first text is empty or ends with a line end. -/
theorem lines_append_newline (a b : List Char) :
    lines (a ++ '\n' :: b) = lines (a ++ ['\n']) ++ lines b := by
  induction a with
  | nil => simp [lines]
  | cons c cs ih =>
    by_cases hc : c = '\n'
    · simp [lines, hc, ih]
    · have hne : lines (cs ++ ['\n']) ≠ [] := by
        cases cs with
        | nil => simp [lines]
        | cons d ds => simp [lines]; grind
      obtain ⟨l, ls, hl⟩ := List.exists_cons_of_ne_nil hne
      simp [lines, hc, ih, hl]

theorem newline_not_mem_of_mem_lines {cs l : List Char} (h : l ∈ lines cs) : '\n' ∉ l := by
  induction cs generalizing l with
  | nil => simp [lines] at h
  | cons c cs ih =>
    by_cases hc : c = '\n'
    · simp only [lines, hc, if_true, List.mem_cons] at h
      rcases h with rfl | h
      · simp
      · exact ih h
    · have hnew : ¬ '\n' = c := fun e => hc e.symm
      simp only [lines, if_neg hc] at h
      split at h
      · simp_all
      · next first rest hlines =>
        rcases List.mem_cons.1 h with rfl | h
        · simp [hnew, ih (l := first) (by simp [hlines])]
        · exact ih (by simp [hlines, h])

theorem lines_line_append {l : List Char} (h : '\n' ∉ l) (cs : List Char) :
    lines (l ++ '\n' :: cs) = l :: lines cs := by
  induction l with
  | nil => simp [lines]
  | cons c l ih =>
    simp only [List.mem_cons, not_or] at h
    simp [lines, Ne.symm h.1, ih h.2]

/-- The text of lines, each with its end. -/
def ofLines (ls : List (List Char)) : List Char := ls.flatMap (· ++ ['\n'])

theorem lines_ofLines {ls : List (List Char)} (h : ∀ l ∈ ls, '\n' ∉ l) :
    lines (ofLines ls) = ls := by
  induction ls with
  | nil => rfl
  | cons l ls ih =>
    have hl := lines_line_append (h l (by simp)) (ofLines ls)
    have hls := ih fun l hl => h l (by simp [hl])
    simp only [ofLines, List.flatMap_cons, List.append_assoc, List.singleton_append] at hl hls ⊢
    rw [hl, hls]

end Interconnect.Text
