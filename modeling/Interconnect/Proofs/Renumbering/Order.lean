import Interconnect.Proofs.Renumbering.Relation
import Mathlib.Data.List.Nodup
/-!
# The order of nets

Nets of different names have one order by name, whatever their numbers. So the walks over all nets
of two contexts that hold one design visit each net at the same time.
-/
namespace Interconnect

namespace Netlist

variable {n : Netlist} {name : String} {i : NetId}

def named (n : Netlist) : List (String × NetId) :=
  n.nets.toList.zipIdx.map fun (net, i) => (net.name, i)

def nameLe (a b : String × NetId) : Bool := decide (a.1 ≤ b.1)

theorem mem_named_iff : (name, i) ∈ n.named ↔ (n.nets[i]?).map (·.name) = some name := by
  simp only [named, List.mem_map, Prod.exists, Prod.mk.injEq, List.mk_mem_zipIdx_iff_getElem?,
    Array.getElem?_toList, Option.map_eq_some_iff]
  constructor
  · rintro ⟨net, j, hnet, hname, rfl⟩
    exact ⟨net, hnet, hname⟩
  · rintro ⟨net, hnet, hname⟩
    exact ⟨net, i, hnet, hname, rfl⟩

theorem named_nodup (n : Netlist) : n.named.Nodup := by
  apply List.Nodup.of_map Prod.snd
  have hnumbers : n.named.map Prod.snd = List.range' 0 n.nets.toList.length := by
    rw [named, List.map_map, ← List.zipIdx_map_snd]
    rfl
  rw [hnumbers]
  exact List.nodup_range'

theorem pairwise_nameLe (n : Netlist) : (n.named.mergeSort nameLe).Pairwise (·.1 ≤ ·.1) := by
  have htrans (a b c : String × NetId) (hab : nameLe a b) (hbc : nameLe b c) : nameLe a c :=
    decide_eq_true (String.le_trans (of_decide_eq_true hab) (of_decide_eq_true hbc))
  have htotal (a b : String × NetId) : nameLe a b || nameLe b a := by
    simpa [nameLe] using String.le_total a.1 b.1
  exact (List.pairwise_mergeSort htrans htotal n.named).imp of_decide_eq_true

end Netlist

namespace Context.Renumbered

variable {r : Renumbering} {c c' : Context}

theorem name? (h : c.Renumbered r c') (i : NetId) :
    (c'.netlist.nets[r.net i]?).map (·.name) = (c.netlist.nets[i]?).map (·.name) := by
  have hnet := h.nets i
  generalize c.netlist.nets[i]? = n, c'.netlist.nets[r.net i]? = n' at hnet
  cases hnet with
  | none => rfl
  | some hnet => exact congrArg some hnet.name

theorem name_unique (h : c.Renumbered r c') {i j : NetId} {name : String}
    (hi : (c'.netlist.nets[i]?).map (·.name) = some name)
    (hj : (c'.netlist.nets[j]?).map (·.name) = some name) : i = j := by
  obtain ⟨i, rfl⟩ := r.net.surjective i
  obtain ⟨j, rfl⟩ := r.net.surjective j
  rw [h.name?] at hi hj
  rw [h.distinct i j name hi hj]

theorem named_perm (h : c.Renumbered r c') :
    c'.netlist.named.Perm (c.netlist.named.map fun (name, i) => (name, r.net i)) := by
  have hnodup : (c.netlist.named.map fun (name, i) => (name, r.net i)).Nodup := by
    apply c.netlist.named_nodup.map
    rintro ⟨name, i⟩ ⟨name', i'⟩ hsame
    simpa using hsame
  apply (List.perm_ext_iff_of_nodup c'.netlist.named_nodup hnodup).2
  rintro ⟨name, j⟩
  obtain ⟨i, rfl⟩ := r.net.surjective j
  rw [Netlist.mem_named_iff, h.name?, ← Netlist.mem_named_iff]
  simp

theorem netsByName (h : c.Renumbered r c') :
    c'.netlist.netsByName = c.netlist.netsByName.map r.net := by
  have hperm : (c'.netlist.named.mergeSort Netlist.nameLe).Perm
      ((c.netlist.named.mergeSort Netlist.nameLe).map fun (name, i) => (name, r.net i)) := by
    apply (List.mergeSort_perm ..).trans
    apply h.named_perm.trans
    exact ((List.mergeSort_perm ..).map _).symm
  have hsort : c'.netlist.named.mergeSort Netlist.nameLe =
      (c.netlist.named.mergeSort Netlist.nameLe).map fun (name, i) => (name, r.net i) := by
    refine List.Perm.eq_of_pairwise ?_ c'.netlist.pairwise_nameLe ?_ hperm
    · rintro ⟨name, i⟩ ⟨name', j⟩ hi hj hle hge
      obtain rfl : name = name' := String.le_antisymm hle hge
      have hi' := Netlist.mem_named_iff.1 ((List.mergeSort_perm ..).mem_iff.1 hi)
      have hj' := Netlist.mem_named_iff.1 ((List.mergeSort_perm ..).mem_iff.1 (hperm.mem_iff.2 hj))
      rw [h.name_unique hi' hj']
    · rw [List.pairwise_map]
      exact c.netlist.pairwise_nameLe
  change (c'.netlist.named.mergeSort Netlist.nameLe).map Prod.snd =
    ((c.netlist.named.mergeSort Netlist.nameLe).map Prod.snd).map r.net
  rw [hsort, List.map_map, List.map_map]
  rfl

/-- Walks over the nets of both visit each net at the same time. -/
theorem forall₂_netsByName (h : c.Renumbered r c') :
    List.Forall₂ (fun i j => j = r.net i) c.netlist.netsByName c'.netlist.netsByName := by
  rw [h.netsByName, List.forall₂_map_right_iff, List.forall₂_same]
  intro i _
  rfl

end Context.Renumbered
end Interconnect
