import Interconnect.Proofs.Building.Step
/-!
# Joined wires

A node keeps the wires that it was joined from, and a wire remembers the node that joined it last. The
finished record gives each tile one entry for each wire of its type from that memory.
-/
namespace Interconnect

/-- The wires joined by each step that joins some, in order. -/
def BuildStep.joins (steps : List BuildStep) : List (List TileWire) :=
  steps.filterMap fun s => s.node?.map (·.2)

/-- The last of several lists that holds a wire. -/
structure LastJoin (joins : List (List TileWire)) (w : TileWire) (n : Nat) : Prop where
  joined : ∃ members, joins[n]? = some members ∧ w ∈ members
  last : ∀ m members, n < m → joins[m]? = some members → w ∉ members

namespace LastJoin

variable {joins : List (List TileWire)} {members : List TileWire} {w : TileWire} {n : Nat}

theorem lt (h : LastJoin joins w n) : n < joins.length := by
  obtain ⟨members, hget, -⟩ := h.joined
  exact (List.getElem?_eq_some_iff.1 hget).1

/-- A wire that is joined once more belongs to the new node, and any other stays where it was. -/
theorem append_iff : LastJoin (joins ++ [members]) w n ↔
    if w ∈ members then n = joins.length else LastJoin joins w n := by
  have hnew : (joins ++ [members])[joins.length]? = some members := List.getElem?_concat_length
  have hold (k : Nat) (hk : k < joins.length) : (joins ++ [members])[k]? = joins[k]? :=
    List.getElem?_append_left hk
  have hbound {k : Nat} {ws : List TileWire} (hk : (joins ++ [members])[k]? = some ws) :
      k ≤ joins.length := by
    have hlt := (List.getElem?_eq_some_iff.1 hk).1
    simp only [List.length_append, List.length_singleton] at hlt
    omega
  split
  · next hw =>
    constructor
    · intro h
      obtain ⟨ws, hws, -⟩ := h.joined
      have hle := hbound hws
      have hge : ¬ n < joins.length := fun hlt => h.last _ members hlt hnew hw
      omega
    · intro h
      subst h
      refine ⟨⟨members, hnew, hw⟩, ?_⟩
      intro k ws hlt hk
      have hle := hbound hk
      omega
  · next hw =>
    constructor
    · intro h
      obtain ⟨ws, hws, hmem⟩ := h.joined
      have hn : n < joins.length := by
        apply Nat.lt_of_le_of_ne (hbound hws)
        intro heq
        rw [heq, hnew] at hws
        exact hw (Option.some.inj hws ▸ hmem)
      refine ⟨⟨ws, hold n hn ▸ hws, hmem⟩, ?_⟩
      intro k us hlt hk
      have hklt := (List.getElem?_eq_some_iff.1 hk).1
      exact h.last k us hlt ((hold k hklt).trans hk)
    · intro h
      obtain ⟨ws, hws, hmem⟩ := h.joined
      refine ⟨⟨ws, (hold n h.lt).trans hws, hmem⟩, ?_⟩
      intro k us hlt hk
      rcases Nat.lt_or_eq_of_le (hbound hk) with hklt | heq
      · exact h.last k us hlt (hold k hklt ▸ hk)
      · rw [heq, hnew] at hk
        exact Option.some.inj hk ▸ hw

end LastJoin

theorem getElem?_foldl_insert_wires {nodeOf : Std.ExtTreeMap TileWire Nat} {members : List TileWire}
    {n : Nat} (w : TileWire) :
    (members.foldl (fun m w => m.insert w n) nodeOf)[w]? =
      if w ∈ members then some n else nodeOf[w]? := by
  induction members generalizing nodeOf with
  | nil => simp
  | cons v members ih =>
    rw [List.foldl_cons, ih, Std.ExtTreeMap.getElem?_insert]
    simp only [Std.compare_eq_iff_eq]
    by_cases hw : w ∈ members
    · simp [hw]
    · by_cases hv : v = w
      · simp [hv]
      · simp [hw, hv, Ne.symm hv]

/-- The nodes and the wires' memory of them, as the steps made so far have left them. -/
structure Joined (steps : List BuildStep) (nodes : Array Node)
    (nodeOf : Std.ExtTreeMap TileWire Nat) : Prop where
  members : nodes.toList.map (·.tileWires.toList) = BuildStep.joins steps
  nodeOf : ∀ w n, nodeOf[w]? = some n ↔ LastJoin (BuildStep.joins steps) w n

theorem joined_start : Joined [] #[] ∅ := by
  constructor
  · rfl
  · intro w n
    constructor
    · intro h
      simp at h
    · intro h
      exact absurd h.lt (Nat.not_lt_zero n)

theorem NodesChange.joined {before : List BuildStep} {ids : IdentTable} {nodes nodes' : Array Node}
    {nodeOf nodeOf' : Std.ExtTreeMap TileWire Nat} {s : BuildStep} (h : Joined before nodes nodeOf)
    (hchange : NodesChange ids nodes nodeOf s nodes' nodeOf') :
    Joined (before ++ [s]) nodes' nodeOf' := by
  have hjoins : BuildStep.joins (before ++ [s]) =
      BuildStep.joins before ++ (s.node?.map (·.2)).toList := by
    rw [BuildStep.joins, List.filterMap_append]
    cases hs : s.node? <;> simp [BuildStep.joins, hs]
  cases hchange with
  | spare hs =>
    rw [hs, Option.map_none, Option.toList_none, List.append_nil] at hjoins
    constructor
    · rw [hjoins]
      exact h.members
    · rw [hjoins]
      exact h.nodeOf
  | @join intent members i _ =>
    replace hjoins : BuildStep.joins (before ++ [.node intent members]) =
        BuildStep.joins before ++ [members] := hjoins
    have hsize : nodes.size = (BuildStep.joins before).length := by
      rw [← h.members, List.length_map, Array.length_toList]
    constructor
    · rw [hjoins, ← h.members]
      simp
    · intro w n
      rw [hjoins, getElem?_foldl_insert_wires, LastJoin.append_iff, hsize]
      split
      · exact ⟨fun heq => (Option.some.inj heq).symm, fun heq => congrArg some heq.symm⟩
      · exact h.nodeOf w n

theorem ChipBuilder.run_joined {b b' : ChipBuilder} {steps : List BuildStep}
    {outs : List (Option Nat)} (hb : Joined [] b.nodes b.nodeOf) (h : b.run steps = .ok (outs, b')) :
    Joined steps b'.nodes b'.nodeOf :=
  run_keeps (fun steps b => Joined steps b.nodes b.nodeOf)
    (fun _ _ _ _ hb heffect => heffect.nodes.joined hb) hb h

end Interconnect
