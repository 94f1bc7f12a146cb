/-!
# Searching text

Starts, parts and cuts of a text, all by characters.
-/
namespace Interconnect.Text

def startsWith (pattern text : String) : Bool := pattern.toList.isPrefixOf text.toList

/-- Whether a pattern occurs somewhere in a list. -/
def occursIn {α : Type} [BEq α] (pattern : List α) : List α → Bool
  | [] => pattern.isEmpty
  | x :: xs => pattern.isPrefixOf (x :: xs) || occursIn pattern xs

def contains (pattern text : String) : Bool := occursIn pattern.toList text.toList

/-- What stands before and behind the first occurrence of a character. -/
def cutFirst? (c : Char) : List Char → Option (List Char × List Char)
  | [] => none
  | x :: xs => if x = c then some ([], xs) else (cutFirst? c xs).map fun (a, b) => (x :: a, b)

/-- What stands before and behind the last occurrence of a character. -/
def cutLast? (c : Char) (cs : List Char) : Option (List Char × List Char) :=
  (cutFirst? c cs.reverse).map fun (a, b) => (b.reverse, a.reverse)

theorem cutFirst?_append_cons {c : Char} {a b : List Char} (h : c ∉ a) :
    cutFirst? c (a ++ c :: b) = some (a, b) := by
  induction a with
  | nil => simp [cutFirst?]
  | cons x xs ih =>
    have hx : x ≠ c := fun e => h (by simp [e])
    simp [cutFirst?, hx, ih fun hm => h (List.mem_cons_of_mem _ hm)]

theorem eq_append_of_cutFirst? {c : Char} {cs a b : List Char} (h : cutFirst? c cs = some (a, b)) :
    cs = a ++ c :: b ∧ c ∉ a := by
  induction cs generalizing a with
  | nil => simp [cutFirst?] at h
  | cons x xs ih =>
    by_cases hx : x = c
    · simp only [cutFirst?, if_pos hx, Option.some.injEq, Prod.mk.injEq] at h
      obtain ⟨rfl, rfl⟩ := h
      simp [hx]
    · simp only [cutFirst?, if_neg hx, Option.map_eq_some_iff, Prod.mk.injEq] at h
      obtain ⟨⟨a', b'⟩, h', rfl, rfl⟩ := h
      obtain ⟨rfl, hm⟩ := ih h'
      exact ⟨rfl, by simp [hm, Ne.symm hx]⟩

theorem cutLast?_append_cons {c : Char} {a b : List Char} (h : c ∉ b) :
    cutLast? c (a ++ c :: b) = some (a, b) := by
  have hr : c ∉ b.reverse := by simpa using h
  have := cutFirst?_append_cons (b := a.reverse) hr
  simp only [cutLast?, List.reverse_append, List.reverse_cons, List.append_assoc,
    List.singleton_append, this]
  simp

end Interconnect.Text
