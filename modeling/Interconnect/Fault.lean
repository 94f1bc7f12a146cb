/-!
# Faults

A table of a chip record is addressed by index. A question that follows an index beyond its table,
asks for a column of a grid without columns, walks a trace that never ends, computes a number that
does not fit its word, or needs room for a text that no memory holds has no answer; it ends in a
`Fault` instead.
-/
namespace Interconnect

/-- Why a question has no answer. -/
inductive Fault where
  /-- An index at or beyond the size of the table it points into. -/
  | outOfRange (index size : Nat)
  /-- A coordinate on a grid whose width is zero. -/
  | emptyGrid
  /-- A walk that returns to where it has been. -/
  | endless
  /-- A number beyond 32 bits and a sign. -/
  | overflow
  /-- A text of a length that no memory holds. -/
  | oversized (length : Nat)
  deriving DecidableEq, Repr

/-- An answer, or the fault met while looking for it. -/
abbrev Query := Except Fault

theorem bind_eq_ok_iff {ε α β : Type} {x : Except ε α} {f : α → Except ε β} {b : β} :
    x >>= f = .ok b ↔ ∃ a, x = .ok a ∧ f a = .ok b := by
  cases x <;> simp [bind, Except.bind]

/-- What each step of a walk over a list keeps, the whole walk keeps. -/
theorem foldlM_keeps {ε α σ : Type} {step : σ → α → Except ε σ} {I : σ → Prop} {xs : List α}
    {s s' : σ} (hstep : ∀ s x s', x ∈ xs → I s → step s x = .ok s' → I s') (hs : I s)
    (h : xs.foldlM step s = .ok s') : I s' := by
  induction xs generalizing s with
  | nil =>
    obtain rfl : s = s' := Except.ok.inj h
    exact hs
  | cons x xs ih =>
    rw [List.foldlM_cons] at h
    obtain ⟨s₁, hx, h⟩ := bind_eq_ok_iff.1 h
    refine ih ?_ (hstep s x s₁ (by simp) hs hx) h
    intro a y b hy
    exact hstep a y b (by simp [hy])

theorem getElem?_of_mapM {ε α β : Type} {xs : List α} {ys : List β} {f : α → Except ε β}
    (h : xs.mapM f = .ok ys) (i : Nat) :
    (xs[i]? = none ∧ ys[i]? = none) ∨ ∃ x y, xs[i]? = some x ∧ ys[i]? = some y ∧ f x = .ok y := by
  induction xs generalizing ys i with
  | nil =>
    obtain rfl : [] = ys := Except.ok.inj h
    exact .inl ⟨rfl, rfl⟩
  | cons x xs ih =>
    rw [List.mapM_cons] at h
    obtain ⟨y, hy, h⟩ := bind_eq_ok_iff.1 h
    obtain ⟨rest, hrest, h⟩ := bind_eq_ok_iff.1 h
    obtain rfl := Except.ok.inj h
    cases i with
    | zero => exact .inr ⟨x, y, rfl, rfl, hy⟩
    | succ i => exact ih hrest i

theorem length_of_mapM {ε α β : Type} {xs : List α} {ys : List β} {f : α → Except ε β}
    (h : xs.mapM f = .ok ys) : ys.length = xs.length := by
  apply Nat.le_antisymm
  · rcases getElem?_of_mapM h xs.length with ⟨-, hnone⟩ | ⟨x, -, hx, -⟩
    · exact List.getElem?_eq_none_iff.1 hnone
    · simp at hx
  · rcases getElem?_of_mapM h ys.length with ⟨hnone, -⟩ | ⟨-, y, -, hy, -⟩
    · exact List.getElem?_eq_none_iff.1 hnone
    · simp at hy

/-- The entry of a table. -/
def fetch {α : Type} (table : Array α) (index : Nat) : Query α :=
  match table[index]? with
  | some entry => .ok entry
  | none => .error (.outOfRange index table.size)

theorem fetch_eq_ok_iff {α : Type} {table : Array α} {index : Nat} {entry : α} :
    fetch table index = .ok entry ↔ table[index]? = some entry := by
  unfold fetch
  split <;> simp_all

theorem fetch_of_lt {α : Type} {table : Array α} {index : Nat} (h : index < table.size) :
    fetch table index = .ok table[index] :=
  fetch_eq_ok_iff.2 (Array.getElem?_eq_getElem h)

theorem lt_size_of_fetch {α : Type} {table : Array α} {index : Nat} {entry : α}
    (h : fetch table index = .ok entry) : index < table.size :=
  (Array.getElem?_eq_some_iff.1 (fetch_eq_ok_iff.1 h)).1

/-- Whether a number fits a signed word of 32 bits. -/
def FitsWord (n : Int) : Prop := -2147483648 ≤ n ∧ n < 2147483648

instance (n : Int) : Decidable (FitsWord n) := inferInstanceAs (Decidable (_ ∧ _))

/-- A computed number, as long as it fits a word. -/
def word (n : Int) : Query Int := if FitsWord n then .ok n else .error .overflow

theorem word_eq_ok_iff {n m : Int} : word n = .ok m ↔ FitsWord n ∧ n = m := by
  unfold word
  split <;> simp_all

end Interconnect
