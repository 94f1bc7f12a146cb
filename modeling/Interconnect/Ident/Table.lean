import Std.Data.ExtTreeMap
import Interconnect.Fault
/-!
# Identifier table

Names are numbered densely in the order in which they are first registered. A number never changes
its name, and a registered name always has the same number.
-/
namespace Interconnect

/-- The number of a registered name. -/
abbrev Ident := Nat

/-- Registered names in order, with the index that finds a name's number. -/
structure IdentTable where
  names : Array String
  index : Std.ExtTreeMap String Ident
  index_eq_some_iff : ∀ (name : String) (i : Nat), index[name]? = some i ↔ names[i]? = some name

namespace IdentTable

def empty : IdentTable where
  names := #[]
  index := ∅
  index_eq_some_iff := by simp

instance : Inhabited IdentTable := ⟨empty⟩

def size (t : IdentTable) : Nat := t.names.size

/-- The number of a name, without registering it. -/
def find? (t : IdentTable) (name : String) : Option Ident := t.index[name]?

def name? (t : IdentTable) (i : Ident) : Option String := t.names[i]?

/-- The name of a number that ought to be registered. -/
def resolve (t : IdentTable) (i : Ident) : Query String := fetch t.names i

theorem find?_eq_some_iff {t : IdentTable} {name : String} {i : Ident} :
    t.find? name = some i ↔ t.name? i = some name := t.index_eq_some_iff name i

private theorem index_push {t : IdentTable} {name : String} (h : t.index[name]? = none)
    (other : String) (i : Ident) :
    (t.index.insert name t.names.size)[other]? = some i ↔ (t.names.push name)[i]? = some other := by
  have fresh : ∀ j : Nat, t.names[j]? ≠ some name := fun j hj => by
    simp [(t.index_eq_some_iff name j).2 hj] at h
  simp only [Std.ExtTreeMap.getElem?_insert, Array.getElem?_push, Std.compare_eq_iff_eq]
  by_cases hn : name = other
  · subst hn
    simp only [↓reduceIte, Option.some.injEq]
    constructor
    · intro hi; simp [hi]
    · intro hi
      split at hi
      · next hs => exact hs.symm
      · exact absurd hi (fresh i)
  · rw [if_neg hn, t.index_eq_some_iff]
    split
    · next hs =>
      subst hs
      simp [hn]
    · rfl

/-- Registers a name that is new, and answers the name's number. -/
def intern (t : IdentTable) (name : String) : Ident × IdentTable :=
  match h : t.index[name]? with
  | some i => (i, t)
  | none =>
    (t.names.size,
      { names := t.names.push name
        index := t.index.insert name t.names.size
        index_eq_some_iff := index_push h })

theorem intern_of_find? {t : IdentTable} {name : String} {i : Ident} (h : t.find? name = some i) :
    t.intern name = (i, t) := by
  unfold intern
  split
  · next h' => rw [find?, h'] at h; cases h; rfl
  · next h' => rw [find?, h'] at h; cases h

theorem intern_fst_of_find?_eq_none {t : IdentTable} {name : String} (h : t.find? name = none) :
    (t.intern name).1 = t.size := by
  unfold intern
  split
  · next h' => rw [find?, h'] at h; cases h
  · rfl

theorem names_intern_of_find?_eq_none {t : IdentTable} {name : String} (h : t.find? name = none) :
    (t.intern name).2.names = t.names.push name := by
  unfold intern
  split
  · next h' => rw [find?, h'] at h; cases h
  · rfl

theorem name?_intern_of_name? {t : IdentTable} {name other : String} {i : Ident}
    (h : t.name? i = some other) : (t.intern name).2.name? i = some other := by
  cases hfind : t.find? name with
  | some j => rwa [intern_of_find? hfind]
  | none =>
    have hlt : i < t.names.size := (Array.getElem?_eq_some_iff.1 h).1
    rw [name?, names_intern_of_find?_eq_none hfind, Array.getElem?_push, if_neg (Nat.ne_of_lt hlt)]
    exact h

theorem name?_intern (t : IdentTable) (name : String) :
    (t.intern name).2.name? (t.intern name).1 = some name := by
  cases hfind : t.find? name with
  | some i =>
    rw [intern_of_find? hfind]
    exact find?_eq_some_iff.1 hfind
  | none =>
    rw [name?, names_intern_of_find?_eq_none hfind, intern_fst_of_find?_eq_none hfind]
    exact Array.getElem?_push_size

theorem find?_intern (t : IdentTable) (name : String) :
    (t.intern name).2.find? name = some (t.intern name).1 :=
  find?_eq_some_iff.2 (name?_intern t name)

/-- Registers names one after another. -/
def internAll (t : IdentTable) (names : List String) : IdentTable :=
  names.foldl (fun t name => (t.intern name).2) t

theorem name?_internAll_of_name? {t : IdentTable} {names : List String} {other : String} {i : Ident}
    (h : t.name? i = some other) : (t.internAll names).name? i = some other := by
  induction names generalizing t with
  | nil => exact h
  | cons name names ih => exact ih (name?_intern_of_name? h)

def summary (t : IdentTable) : String := s!"Interner \x7b len: {t.size} \x7d"

end IdentTable
end Interconnect
