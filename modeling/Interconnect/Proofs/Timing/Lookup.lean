import Interconnect.Proofs.Building.Delays
import Interconnect.Timing
import Mathlib.Tactic.ByContra
/-!
# Searching sorted tables

A table of timing is searched from the front or, when it is long, by halving. Where the keys are in order,
both ways find an entry of a key if there is one, and where they ascend they find the same one. An instance
whose tables are sorted therefore answers with the arcs that stand in it, and with nothing else.
-/
namespace Interconnect

namespace Timing

section
variable {α κ : Type} [Ord κ] {table : Array α} {keyOf : α → κ} {key : κ} {a b : α} {i j : Nat}

/-- Whether no key of a table is greater than one behind it. -/
def InOrder (table : Array α) (keyOf : α → κ) : Prop :=
  table.toList.Pairwise fun a b => (compare (keyOf a) (keyOf b)).isLE

/-- Whether each key of a table is less than those behind it. -/
def Ascending (table : Array α) (keyOf : α → κ) : Prop :=
  table.toList.Pairwise fun a b => compare (keyOf a) (keyOf b) = .lt

theorem Ascending.inOrder (h : Ascending table keyOf) : InOrder table keyOf :=
  h.imp fun hlt => by rw [hlt]; rfl

theorem pairwise_get {R : α → α → Prop} (h : table.toList.Pairwise R) (ha : table[i]? = some a)
    (hb : table[j]? = some b) (hij : i < j) : R a b := by
  rw [← Array.getElem?_toList] at ha hb
  obtain ⟨hi, rfl⟩ := List.getElem?_eq_some_iff.1 ha
  obtain ⟨hj, rfl⟩ := List.getElem?_eq_some_iff.1 hb
  exact List.pairwise_iff_getElem.1 h i j hi hj hij

theorem InOrder.ascending [Std.LawfulEqOrd κ] (h : InOrder table keyOf)
    (hkeys : (table.toList.map keyOf).Nodup) : Ascending table keyOf :=
  (h.and (List.pairwise_map.1 hkeys)).imp fun ⟨hle, hne⟩ => by
    rcases Ordering.isLE_iff_eq_lt_or_eq_eq.1 hle with hlt | heq
    · exact hlt
    · exact absurd (Std.compare_eq_iff_eq.1 heq) hne

/-- What a search finds is an entry of the key, in any table. -/
theorem mem_of_findSorted [Std.LawfulEqOrd κ] [DecidableEq κ]
    (h : findSorted table key keyOf = some a) : a ∈ table ∧ keyOf a = key := by
  rw [findSorted] at h
  split at h
  · exact ⟨Array.mem_of_find?_eq_some h, by simpa using Array.find?_some h⟩
  · rw [Option.filter_eq_some_iff, beq_iff_eq, Std.compare_eq_iff_eq] at h
    exact ⟨Array.mem_of_getElem? h.1, h.2⟩

variable [Std.OrientedOrd κ]

theorem Ascending.unique (h : Ascending table keyOf) (ha : table[i]? = some a)
    (hb : table[j]? = some b) (hkey : keyOf a = keyOf b) : i = j := by
  rcases Nat.lt_trichotomy i j with hlt | heq | hgt
  · have habsurd := pairwise_get h ha hb hlt
    rw [hkey, Std.ReflOrd.compare_self] at habsurd
    cases habsurd
  · exact heq
  · have habsurd := pairwise_get h hb ha hgt
    rw [hkey, Std.ReflOrd.compare_self] at habsurd
    cases habsurd

theorem InOrder.isLE_of_le (h : InOrder table keyOf) (ha : table[i]? = some a)
    (hb : table[j]? = some b) (hij : i ≤ j) : (compare (keyOf a) (keyOf b)).isLE := by
  rcases Nat.lt_or_eq_of_le hij with hlt | rfl
  · exact pairwise_get (R := fun a b => (compare (keyOf a) (keyOf b)).isLE) h ha hb hlt
  · obtain rfl := Option.some.inj (ha.symm.trans hb)
    rw [Std.ReflOrd.compare_self]
    rfl

variable [Std.LawfulEqOrd κ]

/-- Halving finds an entry of a key, if one is in the part to be searched. -/
theorem InOrder.bisect_finds (h : InOrder table keyOf) (base size : Nat)
    (hpart : ∃ i a, table[i]? = some a ∧ keyOf a = key ∧ base ≤ i ∧ i < base + size) :
    ∃ b, table[bisect table key keyOf base size]? = some b ∧ keyOf b = key := by
  fun_induction bisect table key keyOf base size with
  | case1 base size hsmall =>
    obtain ⟨i, a, ha, hkey, hbase, hsize⟩ := hpart
    obtain rfl : i = base := by omega
    exact ⟨a, ha, hkey⟩
  | case2 base size hlarge half above ih =>
    obtain ⟨i, a, ha, hkey, hbase, hsize⟩ := hpart
    have hhalf : half < size := by
      simp only [half]
      omega
    cases hb : table[base + half]? with
    | none =>
      have hlt := (Array.getElem?_eq_some_iff.1 ha).1
      have hge := Array.getElem?_eq_none_iff.1 hb
      have habove : above = true := by simp only [above, hb]
      rw [habove] at ih ⊢
      exact ih ⟨i, a, ha, hkey, hbase, by simp only [half] at hge ⊢; simp; omega⟩
    | some b =>
      by_cases habove : above = true
      · -- an entry as far back as the middle would not be less than the middle
        have hi : i < base + half := by
          by_contra hle
          have hback := h.isLE_of_le hb ha (Nat.le_of_not_lt hle)
          simp only [above, hb, beq_iff_eq] at habove
          rw [hkey, habove] at hback
          cases hback
        rw [habove] at ih ⊢
        exact ih ⟨i, a, ha, hkey, hbase, by simp only [half] at hi ⊢; simp; omega⟩
      · have hfalse : above = false := Bool.eq_false_iff.2 habove
        rw [hfalse] at ih ⊢
        by_cases hi : i < base + half
        · -- the middle is neither less than the entry nor greater, so it has the key as well
          have hfront := h.isLE_of_le ha hb (Nat.le_of_lt hi)
          have hback : (compare (keyOf b) key).isLE := by
            simpa only [above, hb, beq_iff_eq, Ordering.isLE_iff_ne_gt] using habove
          have hmiddle : keyOf b = key := by
            rw [hkey] at hfront
            exact Std.compare_eq_iff_eq.1 (Std.OrientedCmp.isLE_antisymm hback hfront)
          exact ih ⟨base + half, b, hb, hmiddle, by simp, by simp; omega⟩
        · exact ih ⟨i, a, ha, hkey, by simpa using hi, by simp; omega⟩

variable [DecidableEq κ]

theorem InOrder.exists_findSorted (h : InOrder table keyOf) (ha : a ∈ table) (hkey : keyOf a = key) :
    ∃ b, findSorted table key keyOf = some b := by
  rw [findSorted]
  split
  · rw [← Option.isSome_iff_exists, Array.find?_isSome]
    exact ⟨a, ha, by simpa using hkey⟩
  · obtain ⟨i, hi⟩ := Array.mem_iff_getElem?.1 ha
    have hlt := (Array.getElem?_eq_some_iff.1 hi).1
    obtain ⟨b, hb, hbkey⟩ := h.bisect_finds 0 table.size ⟨i, a, hi, hkey, Nat.zero_le i, by omega⟩
    exact ⟨b, Option.filter_eq_some_iff.2 ⟨hb, by rw [hbkey, Std.ReflOrd.compare_self]; rfl⟩⟩

theorem Ascending.findSorted_eq_some_iff (h : Ascending table keyOf) :
    findSorted table key keyOf = some a ↔ a ∈ table ∧ keyOf a = key := by
  refine ⟨mem_of_findSorted, ?_⟩
  rintro ⟨ha, hkey⟩
  obtain ⟨b, hfound⟩ := h.inOrder.exists_findSorted ha hkey
  obtain ⟨hb, hbkey⟩ := mem_of_findSorted hfound
  obtain ⟨i, hi⟩ := Array.mem_iff_getElem?.1 ha
  obtain ⟨j, hj⟩ := Array.mem_iff_getElem?.1 hb
  obtain rfl := h.unique hi hj (hkey.trans hbkey.symm)
  rw [hfound, ← hj, hi]

/-- A search in a table in order finds an entry of a key exactly if there is one. Where the keys are
different it finds what a scan of the whole table would. -/
theorem findSorted_agrees_with_scan (h : InOrder table keyOf) (key : κ) :
    (∀ a, findSorted table key keyOf = some a → a ∈ table ∧ keyOf a = key) ∧
      (findSorted table key keyOf = none ↔ ∀ a ∈ table, keyOf a ≠ key) ∧
      ((table.toList.map keyOf).Nodup →
        findSorted table key keyOf = table.find? fun a => keyOf a = key) := by
  have hnone : findSorted table key keyOf = none ↔ ∀ a ∈ table, keyOf a ≠ key := by
    constructor
    · intro hnone a ha hkey
      obtain ⟨b, hfound⟩ := h.exists_findSorted ha hkey
      rw [hnone] at hfound
      cases hfound
    · intro habsent
      cases hfound : findSorted table key keyOf with
      | none => rfl
      | some b =>
        obtain ⟨hb, hbkey⟩ := mem_of_findSorted hfound
        exact absurd hbkey (habsent b hb)
  refine ⟨fun a => mem_of_findSorted, hnone, fun hkeys => ?_⟩
  cases hscan : table.find? fun a => keyOf a = key with
  | none => exact hnone.2 fun a ha => by simpa using Array.find?_eq_none.1 hscan a ha
  | some a =>
    exact (h.ascending hkeys).findSorted_eq_some_iff.2
      ⟨Array.mem_of_find?_eq_some hscan, by simpa using Array.find?_some hscan⟩

end

/-! Eight pairs, which are searched by halving. -/

def pairTable : Array (Nat × Nat) :=
  #[(0, 0), (0, 1), (0, 2), (0, 3), (1, 0), (1, 1), (1, 2), (1, 3)]

theorem findSorted_agrees_with_scan_pairs : InOrder pairTable (fun p => [p.1, p.2]) ∧
    (pairTable.toList.map fun p => [p.1, p.2]).Nodup ∧
    findSorted pairTable [1, 2] (fun p => [p.1, p.2]) = some (1, 2) ∧
    findSorted pairTable [2, 0] (fun p => [p.1, p.2]) = none := by
  have horder : InOrder pairTable fun p => [p.1, p.2] := by
    unfold InOrder
    decide
  have hkeys : (pairTable.toList.map fun p => [p.1, p.2]).Nodup := by decide
  refine ⟨horder, hkeys, ?_, ?_⟩
  · exact ((findSorted_agrees_with_scan horder [1, 2]).2.2 hkeys).trans (by decide)
  · exact (findSorted_agrees_with_scan horder [2, 0]).2.1.2 (by decide)

end Timing

namespace InstanceTiming

open Timing

variable {inst : InstanceTiming} {variant fromPort toPort : Ident} {arc : ArcDelay} {delay : Delay}

def stored (inst : InstanceTiming) (variant fromPort toPort : Ident) : Option Delay := do
  let variants ← findSorted inst.cellTypes variant (·.variant)
  let arc ← findSorted variants.delays [toPort, fromPort] fun d => [d.toPort, d.fromPort]
  return arc.maxDelay

/-- Whether no variant has two arcs between the same ports. -/
def Distinct (inst : InstanceTiming) : Prop :=
  (inst.arcs.map fun (variant, arc) => (variant, arc.toPort, arc.fromPort)).Nodup

theorem mem_arcs_iff : (variant, arc) ∈ inst.arcs ↔
    ∃ cell ∈ inst.cellTypes, cell.variant = variant ∧ arc ∈ cell.delays := by
  simp only [arcs, List.mem_flatMap, List.mem_map, Array.mem_toList_iff, Prod.mk.injEq]
  constructor
  · rintro ⟨cell, hcell, arc, harc, rfl, rfl⟩
    exact ⟨cell, hcell, rfl, harc⟩
  · rintro ⟨cell, hcell, rfl, harc⟩
    exact ⟨cell, hcell, arc, harc, rfl, rfl⟩

theorem Sorted.ascending_variants (h : inst.Sorted) : Ascending inst.cellTypes (·.variant) :=
  (List.pairwise_map.1 h.variants).imp Nat.compare_eq_lt.2

theorem compare_ports {a b c d : Ident} :
    compare [a, b] [c, d] = .lt ↔ a < c ∨ a = c ∧ b < d := by
  simp only [List.compare_cons_cons, Ordering.then_eq_lt, Nat.compare_eq_lt, Nat.compare_eq_eq]
  simp

theorem Sorted.ascending_delays (h : inst.Sorted) (hdistinct : inst.Distinct) {cell : CellTiming}
    (hcell : cell ∈ inst.cellTypes) :
    Ascending cell.delays fun d => [d.toPort, d.fromPort] := by
  have hports : (cell.delays.toList.map fun d => (d.toPort, d.fromPort)).Nodup := by
    rw [Distinct, arcs, List.map_flatMap, List.nodup_flatMap] at hdistinct
    have hown := hdistinct.1 cell (Array.mem_toList_iff.2 hcell)
    rw [List.map_map] at hown
    exact List.Nodup.of_map (cell.variant, ·) (by simpa [Function.comp_def] using hown)
  refine ((List.pairwise_map.1 hports).and (h.delays cell hcell)).imp ?_
  rintro a b ⟨hne, hlt | ⟨heq, hle⟩⟩
  · exact compare_ports.2 (.inl hlt)
  · refine compare_ports.2 (.inr ⟨heq, Nat.lt_of_le_of_ne hle fun hfrom => hne ?_⟩)
    rw [heq, hfrom]

theorem Sorted.stored_eq_some_iff (h : inst.Sorted) (hdistinct : inst.Distinct) :
    inst.stored variant fromPort toPort = some delay ↔ ∃ arc, (variant, arc) ∈ inst.arcs ∧
      arc.fromPort = fromPort ∧ arc.toPort = toPort ∧ arc.maxDelay = delay := by
  have hvariants (cell : CellTiming) : findSorted inst.cellTypes variant (·.variant) = some cell ↔
      cell ∈ inst.cellTypes ∧ cell.variant = variant :=
    h.ascending_variants.findSorted_eq_some_iff
  have hports (cell : CellTiming) (hcell : cell ∈ inst.cellTypes) (arc : ArcDelay) :
      (findSorted cell.delays [toPort, fromPort] fun d => [d.toPort, d.fromPort]) = some arc ↔
        arc ∈ cell.delays ∧ [arc.toPort, arc.fromPort] = [toPort, fromPort] :=
    (h.ascending_delays hdistinct hcell).findSorted_eq_some_iff
  simp only [stored, bind, pure, Option.bind_eq_some_iff, mem_arcs_iff]
  constructor
  · rintro ⟨cell, hcell, arc, harc, hdelay⟩
    obtain ⟨hcell, hvariant⟩ := (hvariants cell).1 hcell
    obtain ⟨harc, hends⟩ := (hports cell hcell arc).1 harc
    simp only [List.cons.injEq, and_true] at hends
    exact ⟨arc, ⟨cell, hcell, hvariant, harc⟩, hends.2, hends.1, Option.some.inj hdelay⟩
  · rintro ⟨arc, ⟨cell, hcell, hvariant, harc⟩, rfl, rfl, rfl⟩
    exact ⟨cell, (hvariants cell).2 ⟨hcell, hvariant⟩, arc, (hports cell hcell arc).2 ⟨harc, rfl⟩, rfl⟩

end InstanceTiming
end Interconnect
