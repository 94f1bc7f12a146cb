import Interconnect.Chip.Database
import Mathlib.Data.List.Nodup
/-!
# Identifiers of a record

A table grows at its end: names that are new are appended in their order, and what is there stays. A
database registers the known names and then the record's own, which must all be new.
-/
namespace Interconnect

namespace IdentTable

variable {t : IdentTable}

theorem eq_of_name? {i j : Ident} {name : String}
    (hi : t.name? i = some name) (hj : t.name? j = some name) : i = j :=
  Option.some.inj ((find?_eq_some_iff.2 hi).symm.trans (find?_eq_some_iff.2 hj))

theorem names_nodup (t : IdentTable) : t.names.toList.Nodup := by
  rw [List.nodup_iff_getElem?_ne_getElem?]
  intro i j hij hj heq
  have hget (k : Nat) : t.names.toList[k]? = t.name? k := by simp [name?]
  obtain ⟨name, hname⟩ : ∃ name, t.name? j = some name :=
    ⟨t.names.toList[j], by simp [name?]⟩
  rw [hget, hget] at heq
  exact Nat.ne_of_lt hij (eq_of_name? (heq.trans hname) hname)

theorem find?_eq_none_of_not_mem {name : String} (h : name ∉ t.names.toList) :
    t.find? name = none := by
  cases hfind : t.find? name with
  | none => rfl
  | some i =>
    have hmem := Array.mem_of_getElem? (find?_eq_some_iff.1 hfind)
    exact absurd (Array.mem_toList_iff.2 hmem) h

theorem names_prefix_intern (t : IdentTable) (name : String) :
    t.names.toList <+: (t.intern name).2.names.toList := by
  cases hfind : t.find? name with
  | some i => exact ⟨[], by rw [List.append_nil, intern_of_find? hfind]⟩
  | none =>
    rw [names_intern_of_find?_eq_none hfind, Array.toList_push]
    exact List.prefix_append ..

theorem names_prefix_internAll (t : IdentTable) (names : List String) :
    t.names.toList <+: (t.internAll names).names.toList := by
  induction names generalizing t with
  | nil => exact List.prefix_refl _
  | cons name names ih => exact (names_prefix_intern t name).trans (ih _)

theorem names_internAll {names : List String} (h : (t.names.toList ++ names).Nodup) :
    (t.internAll names).names.toList = t.names.toList ++ names := by
  induction names generalizing t with
  | nil => exact (List.append_nil _).symm
  | cons name names ih =>
    have hnew : name ∉ t.names.toList := fun hmem =>
      List.disjoint_of_nodup_append h hmem List.mem_cons_self
    have hpush : (t.intern name).2.names.toList = t.names.toList ++ [name] := by
      rw [names_intern_of_find?_eq_none (find?_eq_none_of_not_mem hnew), Array.toList_push]
    have hrest := ih (t := (t.intern name).2) (by rw [hpush]; simpa using h)
    rw [internAll, List.foldl_cons, ← internAll, hrest, hpush, List.append_assoc]
    rfl

theorem size_intern_of_find?_eq_none {name : String} (h : t.find? name = none) :
    (t.intern name).2.size = t.size + 1 := by
  rw [size, names_intern_of_find?_eq_none h, Array.size_push]
  rfl

end IdentTable

theorem Known.names_table : Known.table.names.toList = Known.names := by
  have hempty : IdentTable.empty.names.toList ++ Known.names = Known.names := List.nil_append _
  rw [Known.table, IdentTable.names_internAll (hempty ▸ Known.names_nodup), hempty]

theorem Known.nodup_append {own : List String} (h : own.Nodup)
    (hnew : ∀ name ∈ own, name ∉ Known.names) : (Known.names ++ own).Nodup := by
  refine List.nodup_append.2 ⟨Known.names_nodup, h, ?_⟩
  rintro name hknown _ hown rfl
  exact hnew name hown hknown

/-- The known names and behind them the record's own, with their numbers. -/
def ChipRecord.table (r : ChipRecord) : IdentTable := Known.table.internAll r.extraIds.toList

theorem ChipRecord.names_table {r : ChipRecord} (h : (Known.names ++ r.extraIds.toList).Nodup) :
    r.table.names.toList = Known.names ++ r.extraIds.toList := by
  rw [table, IdentTable.names_internAll (by rwa [Known.names_table]), Known.names_table]

namespace ChipDatabase

variable {db : ChipDatabase} {t t' : IdentTable} {names : List String}

theorem record_of_ofRecord {r : ChipRecord} {checksum : ContentHash}
    (h : ofRecord r checksum = .ok db) : db.record = r := by
  unfold ofRecord at h
  split at h
  · cases h
    rfl
  · cases h

theorem size_of_register (h : register t names = .ok t') :
    t'.size = t.size + names.length := by
  induction names generalizing t with
  | nil =>
    obtain rfl := Except.ok.inj h
    rfl
  | cons name names ih =>
    rw [register] at h
    split at h
    case h_1 => cases h
    case h_2 fresh =>
      rw [ih h, IdentTable.size_intern_of_find?_eq_none fresh, List.length_cons]
      omega

theorem size_of_identTable {ids : IdentTable} (h : db.identTable = .ok ids) :
    ids.size = db.record.idLimit := by
  have size := size_of_register h
  rw [List.length_append, Array.length_toList] at size
  rw [size]
  exact Nat.zero_add _

theorem register_of_nodup (h : (t.names.toList ++ names).Nodup) :
    register t names = .ok (t.internAll names) := by
  induction names generalizing t with
  | nil => rfl
  | cons name names ih =>
    have hnew : name ∉ t.names.toList := fun hmem =>
      List.disjoint_of_nodup_append h hmem List.mem_cons_self
    have hfind := IdentTable.find?_eq_none_of_not_mem hnew
    rw [register, hfind]
    apply ih
    rw [IdentTable.names_intern_of_find?_eq_none hfind, Array.toList_push]
    simpa using h

/-- A record whose own names are new and all different has a table of its identifiers. -/
theorem identTable_eq (h : (Known.names ++ db.record.extraIds.toList).Nodup) :
    db.identTable = .ok db.record.table := by
  have hempty : IdentTable.empty.names.toList ++ (Known.names ++ db.record.extraIds.toList) =
      Known.names ++ db.record.extraIds.toList := List.nil_append _
  rw [identTable, register_of_nodup (hempty ▸ h), IdentTable.internAll, List.foldl_append]
  rfl

end ChipDatabase
end Interconnect
