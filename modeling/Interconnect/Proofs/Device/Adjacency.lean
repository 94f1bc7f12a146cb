import Interconnect.Proofs.Building.Finish
import Interconnect.Proofs.Device.Member
import Interconnect.Proofs.Routing.Search
/-!
# Adjacency of built devices

A tile type lists pips at its wires, a node gathers the wires of several tiles, and a map in each tile
tells the nodes of its wires. On a device that is built by steps which join no wire twice the three
agree: a handle stands for the wires that are handed out as it, and lists each pip that drives it once.
-/
namespace Interconnect

namespace Device

variable {d : Device} {m : TileWire} {w : WireId} {p : PipId}

/-- What a handle should say of the wires of tiles and of the pips at them. -/
structure ExactAt (d : Device) (w : WireId) : Prop where
  members : ∃ members, d.wireMembers w = .ok members ∧ ∀ m, m ∈ members ↔ d.canonicalWire m = .ok w
  uphill : ∃ pips, d.pipsUphill w = .ok pips ∧
    ∀ p, pips.count p = if d.pipDstWire p = .ok w then 1 else 0
  downhill : ∃ pips, d.pipsDownhill w = .ok pips ∧
    ∀ p, pips.count p = if d.pipSrcWire p = .ok w then 1 else 0

/-! ### Members -/

/-- No node lists a wire twice, and tiles map a wire to a node exactly if the node lists it. -/
structure NodesAgree (r : ChipRecord) : Prop where
  maps_iff : ∀ n m, r.Maps m n ↔ r.Lists n m
  nodup : ∀ node ∈ r.nodes, node.tileWires.toList.Nodup

theorem wireMembers_of_agree (h : NodesAgree d.record) (hw : d.IsHandle w) : ∃ members,
    d.wireMembers w = .ok members ∧ members.Nodup ∧ ∀ m, m ∈ members ↔ d.canonicalWire m = .ok w := by
  obtain ⟨m₀, hm₀⟩ := hw
  cases w with
  | tile t i =>
    refine ⟨[⟨t, i⟩], rfl, List.nodup_singleton _, ?_⟩
    intro m
    rw [List.mem_singleton]
    constructor
    · intro heq
      rw [heq, ← eq_of_canonicalWire_tile hm₀]
      exact hm₀
    · exact eq_of_canonicalWire_tile
  | node n =>
    obtain ⟨node, hnode, -⟩ := (h.maps_iff n m₀).1 (canonicalWire_eq_node_iff.1 hm₀)
    refine ⟨node.tileWires.toList, ?_, h.nodup node (Array.mem_of_getElem? hnode), ?_⟩
    · rw [wireMembers, fetch_eq_ok_iff.2 hnode]
      rfl
    · intro m
      rw [canonicalWire_eq_node_iff, h.maps_iff, Array.mem_toList_iff]
      constructor
      · exact fun hm => ⟨node, hnode, hm⟩
      · intro hlists
        obtain ⟨node', hnode', hm⟩ := hlists
        obtain rfl := Option.some.inj (hnode.symm.trans hnode')
        exact hm

/-! ### Pips -/

def pipEnd (d : Device) (endOf : Pip → Nat) (p : PipId) : Query TileWire := do
  return ⟨p.tile, endOf (← d.pip p)⟩

theorem pipSrcWire_eq_pipEnd : d.pipSrcWire p = d.pipEnd (·.src) p >>= d.canonicalWire := by
  rw [pipSrcWire, pipEnd]
  cases d.pip p <;> rfl

theorem pipDstWire_eq_pipEnd : d.pipDstWire p = d.pipEnd (·.dst) p >>= d.canonicalWire := by
  rw [pipDstWire, pipEnd]
  cases d.pip p <;> rfl

theorem pipEnd_eq_ok_iff {endOf : Pip → Nat} : d.pipEnd endOf p = .ok m ↔ ∃ tt pip,
    d.tileType p.tile = .ok tt ∧ tt.pips[p.index]? = some pip ∧ m = ⟨p.tile, endOf pip⟩ := by
  simp only [pipEnd, pip, bind_eq_ok_iff, fetch_eq_ok_iff]
  constructor
  · intro h
    obtain ⟨pip, ⟨tt, htt, hpip⟩, h⟩ := h
    exact ⟨tt, pip, htt, hpip, (Except.ok.inj h).symm⟩
  · intro h
    obtain ⟨tt, pip, htt, hpip, rfl⟩ := h
    exact ⟨pip, ⟨tt, htt, hpip⟩, rfl⟩

variable {list : Wire → Array Nat} {endOf : Pip → Nat}

theorem count_pips_of_member (hlists : ∀ tt ∈ d.record.tileTypes, tt.Lists list endOf) {info : Wire}
    (hinfo : d.memberInfo m = .ok info) (p : PipId) :
    ((list info).toList.map fun i => (⟨m.tile, i⟩ : PipId)).count p =
      if d.pipEnd endOf p = .ok m then 1 else 0 := by
  obtain ⟨tt, htt, hwire⟩ := bind_eq_ok_iff.1 hinfo
  have hmem := mem_tileTypes_of_tileType htt
  rw [(hlists tt hmem).eq m.index info (fetch_eq_ok_iff.1 hwire)]
  have hnodup : ((tt.pipsWhere (endOf · = m.index)).map fun i => (⟨m.tile, i⟩ : PipId)).Nodup := by
    apply List.Nodup.map
    · exact fun i j hij => congrArg (fun q : PipId => q.index) hij
    · exact (tt.pairwise_pipsWhere _).imp Nat.ne_of_lt
  rw [hnodup.count]
  congr 1
  rw [pipEnd_eq_ok_iff, List.mem_map]
  apply propext
  constructor
  · intro h
    obtain ⟨i, hi, rfl⟩ := h
    obtain ⟨pip, hpip, hend⟩ := TileType.mem_pipsWhere_iff.1 hi
    exact ⟨tt, pip, htt, hpip, by rw [of_decide_eq_true hend]⟩
  · intro h
    obtain ⟨tt', pip, htt', hpip, rfl⟩ := h
    obtain rfl : tt = tt' := Except.ok.inj (htt.symm.trans htt')
    exact ⟨p.index, TileType.mem_pipsWhere_iff.2 ⟨pip, hpip, decide_eq_true rfl⟩, rfl⟩

/-- The pips at all members, if each member counts a pip only if it stands at its end. -/
theorem count_flatten_of_mapM {members : List TileWire} {lists : List (List PipId)}
    {f : TileWire → Query (List PipId)} (here : TileWire → Bool) (h : members.mapM f = .ok lists)
    (hf : ∀ m pips, f m = .ok pips → pips.count p = if here m then 1 else 0) :
    lists.flatten.count p = members.countP here := by
  induction members generalizing lists with
  | nil =>
    obtain rfl : [] = lists := Except.ok.inj h
    rfl
  | cons m members ih =>
    rw [List.mapM_cons] at h
    obtain ⟨pips, hpips, h⟩ := bind_eq_ok_iff.1 h
    obtain ⟨rest, hrest, h⟩ := bind_eq_ok_iff.1 h
    obtain rfl := Except.ok.inj h
    rw [List.flatten_cons, List.count_append, ih hrest, hf m pips hpips, List.countP_cons,
      Nat.add_comm]

theorem pipsAt_of_agree (hlists : ∀ tt ∈ d.record.tileTypes, tt.Lists list endOf)
    (hagree : NodesAgree d.record) (hw : d.IsHandle w) {pips : List PipId}
    (hpips : d.pipsAt list w = .ok pips) (p : PipId) :
    pips.count p = if (d.pipEnd endOf p >>= d.canonicalWire) = .ok w then 1 else 0 := by
  obtain ⟨members, hmembers, hnodup, hiff⟩ := wireMembers_of_agree hagree hw
  obtain ⟨members', hmembers', h⟩ := bind_eq_ok_iff.1 hpips
  obtain rfl := Except.ok.inj (hmembers.symm.trans hmembers')
  obtain ⟨lists, hmap, h⟩ := bind_eq_ok_iff.1 h
  obtain rfl := Except.ok.inj h
  have hcount := count_flatten_of_mapM (p := p) (fun m => d.pipEnd endOf p = .ok m) hmap ?_
  · rw [hcount]
    cases hend : d.pipEnd endOf p with
    | error e => simp [bind, Except.bind]
    | ok m =>
      have hat : (members.countP fun x => decide (Except.ok m = (.ok x : Query TileWire))) =
          members.count m := by
        rw [List.count]
        apply List.countP_congr
        intro x _
        rw [decide_eq_true_eq, beq_iff_eq, Except.ok.injEq]
        exact eq_comm
      rw [hat, hnodup.count]
      congr 1
      exact propext (hiff m)
  · intro m list' hlist
    obtain ⟨info, hinfo, hlist⟩ := bind_eq_ok_iff.1 hlist
    obtain rfl := Except.ok.inj hlist
    simpa using count_pips_of_member hlists hinfo p

/-- Tile types that list their pips and nodes that agree with the tiles make every handle exact. -/
theorem exactAt_of_agree (hwired : ∀ tt ∈ d.record.tileTypes, tt.Wired)
    (hagree : NodesAgree d.record) (hw : d.IsHandle w) : d.ExactAt w := by
  obtain ⟨members, hmembers, -, hiff⟩ := wireMembers_of_agree hagree hw
  obtain ⟨up, hup, -⟩ := answers_pipsUphill hw.hasWire
  obtain ⟨down, hdown, -⟩ := answers_pipsDownhill hw.hasWire
  refine ⟨⟨members, hmembers, hiff⟩, ⟨up, hup, ?_⟩, ⟨down, hdown, ?_⟩⟩
  · intro p
    rw [pipDstWire_eq_pipEnd]
    exact pipsAt_of_agree (fun tt htt => (hwired tt htt).uphill) hagree hw hup p
  · intro p
    rw [pipSrcWire_eq_pipEnd]
    exact pipsAt_of_agree (fun tt htt => (hwired tt htt).downhill) hagree hw hdown p

end Device

/-! ### Built devices -/

variable {r : ChipRecord} {steps : List BuildStep}

theorem ChipRecord.WellJoined.lists_iff (h : r.WellJoined steps) {n : Nat} {m : TileWire} :
    r.Lists n m ↔ ∃ members, (BuildStep.joins steps)[n]? = some members ∧ m ∈ members := by
  rw [← h.members, List.getElem?_map, Array.getElem?_toList]
  constructor
  · intro hlists
    obtain ⟨node, hnode, hm⟩ := hlists
    exact ⟨_, by rw [hnode]; rfl, Array.mem_toList_iff.2 hm⟩
  · intro hjoined
    obtain ⟨members, hmembers, hm⟩ := hjoined
    obtain ⟨node, hnode, rfl⟩ := Option.map_eq_some_iff.1 hmembers
    exact ⟨node, hnode, Array.mem_toList_iff.1 hm⟩

theorem ChipRecord.WellJoined.maps_iff (h : r.WellJoined steps) (accepted : r.Accepted) {n : Nat}
    {m : TileWire} : r.Maps m n ↔ LastJoin (BuildStep.joins steps) m n := by
  constructor
  · intro hmaps
    obtain ⟨tile, htile, hentry⟩ := hmaps
    exact (h.nodeOf m.tile tile m.index _ htile hentry n).1 rfl
  · intro hlast
    obtain ⟨node, hnode, hm⟩ := h.lists_iff.2 hlast.joined
    have valid := ChipRecord.accepted_iff_valid.1 accepted
    obtain ⟨tile, tt, htile, htt, hlt⟩ :=
      (valid.nodes node (Array.mem_of_getElem? hnode)).members m hm
    obtain ⟨ty, hty, hsize⟩ := h.sizes tile (Array.mem_of_getElem? htile)
    obtain rfl := Option.some.inj (htt.symm.trans hty)
    obtain ⟨entry, hentry⟩ : ∃ entry, tile.wireToNode[m.index]? = some entry :=
      ⟨_, Array.getElem?_eq_getElem (hsize ▸ hlt)⟩
    have hnamed := (h.nodeOf m.tile tile m.index entry htile hentry n).2 hlast
    exact ⟨tile, htile, hnamed ▸ hentry⟩

theorem ChipRecord.WellJoined.nodesAgree (h : r.WellJoined steps) (accepted : r.Accepted)
    (once : (BuildStep.joins steps).flatten.Nodup) : Device.NodesAgree r := by
  have hdisjoint := List.nodup_flatten.1 once
  constructor
  · intro n m
    rw [h.maps_iff accepted, h.lists_iff]
    constructor
    · exact LastJoin.joined
    · intro hjoined
      refine ⟨hjoined, ?_⟩
      obtain ⟨members, hmembers, hm⟩ := hjoined
      intro k others hlt hothers hm'
      obtain ⟨hn, rfl⟩ := List.getElem?_eq_some_iff.1 hmembers
      obtain ⟨hk, rfl⟩ := List.getElem?_eq_some_iff.1 hothers
      exact List.pairwise_iff_getElem.1 hdisjoint.2 n k hn hk hlt hm hm'
  · intro node hnode
    apply hdisjoint.1
    rw [← h.members]
    exact List.mem_map.2 ⟨node, Array.mem_toList_iff.2 hnode, rfl⟩

variable {checksum : ContentHash} {db : ChipDatabase} {d : Device} {name : String}
  {width height : Nat} {outs : List (Option Nat)}

/-- On a device that steps have built, with no wire joined twice, every handle stands for the wires that
are handed out as it, and lists every pip at either end of it once and no other. -/
theorem adjacency_exact_of_build (built : ChipRecord.build name width height steps = .ok (outs, r))
    (once : (BuildStep.joins steps).flatten.Nodup)
    (accepted : ChipDatabase.ofRecord r checksum = .ok db)
    (opened : Device.ofDatabase db = .ok (.ok d)) : ∀ w, d.IsHandle w → d.ExactAt w := by
  intro w hw
  obtain ⟨b, hb, hr⟩ := exists_built built
  have record : d.record = r := by
    rw [Device.record, (Device.opened_of_ofDatabase opened).1,
      ChipDatabase.record_of_ofRecord accepted]
  apply Device.exactAt_of_agree _ _ hw
  · rw [record, hr.tileTypes]
    exact hb.wired
  · rw [record]
    have hvalid := d.valid
    rw [record] at hvalid
    exact (wellJoined_of_built hb hr).nodesAgree (ChipRecord.accepted_iff_valid.2 hvalid) once

/-- Two tiles in a row, joined where the first meets the second. -/
def rowSteps : List BuildStep :=
  [.tileType "INT", .wire 1 "IN" "NODE_SINGLE", .wire 1 "OUT" "NODE_SINGLE", .pip 1 0 1,
   .node "NODE_SINGLE" [⟨0, 1⟩, ⟨1, 0⟩], .setTile 0 0 "INT_X0Y0" 1, .setTile 1 0 "INT_X1Y0" 1]

/-- The node is driven by the pip of the first tile and drives that of the second. -/
theorem adjacency_exact_of_build_row : ∃ outs r db d,
    ChipRecord.build "xcvu" 2 1 rowSteps = .ok (outs, r) ∧
    (BuildStep.joins rowSteps).flatten.Nodup ∧ ChipDatabase.ofRecord r ⟨[]⟩ = .ok db ∧
    Device.ofDatabase db = .ok (.ok d) ∧ d.IsHandle (.node 0) ∧ d.ExactAt (.node 0) ∧
    d.wireMembers (.node 0) = .ok [⟨0, 1⟩, ⟨1, 0⟩] ∧ d.pipsUphill (.node 0) = .ok [⟨0, 0⟩] ∧
    d.pipsDownhill (.node 0) = .ok [⟨1, 0⟩] := by
  have opens : (do
      let (_, r) ← ChipRecord.build "xcvu" 2 1 rowSteps
      match ChipDatabase.ofRecord r ⟨[]⟩ with
      | .ok db => do
        let opened ← Device.ofDatabase db
        return opened.toOption.map fun d => decide (d.canonicalWire ⟨0, 1⟩ = .ok (.node 0) ∧
          d.wireMembers (.node 0) = .ok [⟨0, 1⟩, ⟨1, 0⟩] ∧ d.pipsUphill (.node 0) = .ok [⟨0, 0⟩] ∧
          d.pipsDownhill (.node 0) = .ok [⟨1, 0⟩])
      | .error _ => return none) = Except.ok (some true) := by decide +kernel
  have once : (BuildStep.joins rowSteps).flatten.Nodup := by decide
  obtain ⟨⟨outs, r⟩, built, h⟩ := bind_eq_ok_iff.1 opens
  cases accepted : ChipDatabase.ofRecord r ⟨[]⟩ with
  | error e => simp [accepted, pure, Except.pure] at h
  | ok db =>
    simp only [accepted] at h
    obtain ⟨d, opened, hcheck⟩ := Device.exists_of_check h
    obtain ⟨hcanonical, hmembers, hup, hdown⟩ := of_decide_eq_true hcheck
    have hw : d.IsHandle (.node 0) := ⟨_, hcanonical⟩
    exact ⟨outs, r, db, d, built, once, accepted, opened, hw,
      adjacency_exact_of_build built once accepted opened _ hw, hmembers, hup, hdown⟩

end Interconnect
