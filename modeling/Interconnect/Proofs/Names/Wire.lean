import Interconnect.Proofs.Device.Adjacency
import Interconnect.Proofs.Names.Index
/-!
# Names of wires

The name of a wire is read in three steps: a tile, an identifier, and the wire of the tile that has it.
Each step can only go back to what the name was put together from, so a name that finds a handle is the
name of a wire that is handed out as it. A handle is named by its first member, which is handed out as
the handle where the nodes agree with the tiles.
-/
namespace Interconnect

namespace Device

variable {d : Device} {m : TileWire} {w : WireId} {name : String}

theorem memberName_eq_ok_iff : d.memberName m = .ok name ↔ ∃ tile info wire,
    d.tileName m.tile = .ok tile ∧ d.memberInfo m = .ok info ∧ d.nameOf info.name = .ok wire ∧
      name = s!"{tile}/{wire}" := by
  simp only [memberName, bind_eq_ok_iff, pure, Except.pure, Except.ok.injEq]
  constructor
  · intro h
    obtain ⟨tile, htile, info, hinfo, wire, hwire, rfl⟩ := h
    exact ⟨tile, info, wire, htile, hinfo, hwire, rfl⟩
  · intro h
    obtain ⟨tile, info, wire, htile, hinfo, hwire, rfl⟩ := h
    exact ⟨tile, htile, info, hinfo, wire, hwire, rfl⟩

theorem eq_of_cutFirst? {owner rest : List Char}
    (h : Text.cutFirst? '/' name.toList = some (owner, rest)) :
    name = s!"{String.ofList owner}/{String.ofList rest}" := by
  apply String.toList_injective
  rw [(Text.eq_append_of_cutFirst? h).1, toList_owned, String.toList_ofList, String.toList_ofList]

theorem exists_member_of_wireByName (h : d.Opened) (found : d.wireByName name = .ok (some w)) :
    ∃ m, d.memberName m = .ok name ∧ d.canonicalWire m = .ok w := by
  unfold wireByName at found
  split at found
  case h_1 => cases found
  case h_2 tile rest hcut =>
    split at found
    case h_2 => cases found
    case h_1 t i ht hi =>
      obtain ⟨tt, typed, found⟩ := bind_eq_ok_iff.1 found
      split at found
      case h_2 => cases found
      case h_1 k hk =>
        obtain ⟨handle, hhandle, found⟩ := bind_eq_ok_iff.1 found
        obtain rfl := Option.some.inj (Except.ok.inj found)
        obtain ⟨hlt, hname, -⟩ := Array.findIdx?_eq_some_iff_getElem.1 hk
        have hinfo : d.memberInfo ⟨t, k⟩ = .ok tt.wires[k] := by
          rw [memberInfo, typed]
          exact fetch_of_lt hlt
        have hwire : d.nameOf tt.wires[k].name = .ok (String.ofList rest) := by
          rw [of_decide_eq_true hname]
          exact nameOf_eq_ok_iff.2 hi
        refine ⟨⟨t, k⟩, ?_, hhandle⟩
        exact memberName_eq_ok_iff.2
          ⟨_, _, _, h.tileName_of_tileByName ht, hinfo, hwire, eq_of_cutFirst? hcut⟩

theorem wireByName_eq_none (h : d.Opened) (hi : d.Indexed)
    (unnamed : ∀ m, d.memberName m ≠ .ok name) : d.wireByName name = .ok none := by
  obtain ⟨found, hfound, -⟩ := answers_wireByName hi name
  cases found with
  | none => exact hfound
  | some w =>
    obtain ⟨m, hname, -⟩ := exists_member_of_wireByName h hfound
    exact absurd hname (unnamed m)

theorem canonicalWire_of_agree (h : NodesAgree d.record) (hw : d.IsHandle w) :
    ∃ m, d.canonicalMember w = .ok m ∧ d.HasMember m ∧ d.canonicalWire m = .ok w := by
  obtain ⟨m, hm, inside⟩ := answers_canonicalMember hw.hasWire
  refine ⟨m, hm, inside, ?_⟩
  cases w with
  | tile t i =>
    obtain rfl := Except.ok.inj hm
    obtain ⟨m₀, hm₀⟩ := hw
    rwa [eq_of_canonicalWire_tile hm₀] at hm₀
  | node n =>
    obtain ⟨node, hnode, hfirst⟩ := bind_eq_ok_iff.1 hm
    have hlists : d.record.Lists n m :=
      ⟨node, fetch_eq_ok_iff.1 hnode, Array.mem_of_getElem? (fetch_eq_ok_iff.1 hfirst)⟩
    exact canonicalWire_eq_node_iff.2 ((h.maps_iff n m).2 hlists)

end Device

variable {r : ChipRecord} {checksum : ContentHash} {db : ChipDatabase} {d : Device} {name : String}
  {width height : Nat} {steps : List BuildStep} {outs : List (Option Nat)}

/-- On a device that steps have built, with no wire joined twice and with names apart, every name of a
wire of a tile finds the wire's handle, the name of every handle finds the handle, and no other text
finds anything. -/
theorem wire_names_resolve (built : ChipRecord.build name width height steps = .ok (outs, r))
    (once : (BuildStep.joins steps).flatten.Nodup)
    (accepted : ChipDatabase.ofRecord r checksum = .ok db)
    (opened : Device.ofDatabase db = .ok (.ok d)) (names : r.NamesApart) :
    (∀ m, d.HasMember m → ∃ s w, d.memberName m = .ok s ∧ d.canonicalWire m = .ok w ∧
      d.wireByName s = .ok (some w)) ∧
    (∀ w, d.IsHandle w → ∃ s, d.wireName w = .ok s ∧ d.wireByName s = .ok (some w)) ∧
    ∀ s, (∀ m, d.memberName m ≠ .ok s) → d.wireByName s = .ok none := by
  obtain rfl := Device.record_of_ofDatabase accepted opened
  have hopened := (Device.opened_of_ofDatabase opened).2
  obtain ⟨b, hb, hr⟩ := exists_built built
  have hagree : Device.NodesAgree d.record :=
    (wellJoined_of_built hb hr).nodesAgree (ChipRecord.accepted_iff_valid.2 d.valid) once
  have hindexed := Device.indexed_of_ofDatabase opened
  refine ⟨?_, ?_, fun s => Device.wireByName_eq_none hopened hindexed⟩
  · intro m hm
    obtain ⟨s, hs, hfound⟩ := Device.wireByName_memberName hopened names hm
    obtain ⟨w, hw, -⟩ := Device.answers_canonicalWire hm
    exact ⟨s, w, hs, hw, by rw [hfound, hw]; rfl⟩
  · intro w hw
    obtain ⟨m, hm, inside, hhandle⟩ := Device.canonicalWire_of_agree hagree hw
    obtain ⟨s, hs, hfound⟩ := Device.wireByName_memberName hopened names inside
    refine ⟨s, ?_, by rw [hfound, hhandle]; rfl⟩
    rw [Device.wireName, hm]
    exact hs

/-- Two tiles in a row, joined from the first wire of one to the second of the other. The names of the
wires have strokes in them. -/
def quadSteps : List BuildStep :=
  [.tileType "INT", .wire 1 "EE4/BEG" "NODE_QUAD", .wire 1 "EE4/END" "NODE_QUAD",
   .node "NODE_QUAD" [⟨0, 0⟩, ⟨1, 1⟩], .setTile 0 0 "INT_X0Y0" 1, .setTile 1 0 "INT_X1Y0" 1]

theorem wire_names_resolve_quad : ∃ outs r db d,
    ChipRecord.build "xcvu" 2 1 quadSteps = .ok (outs, r) ∧
    (BuildStep.joins quadSteps).flatten.Nodup ∧ ChipDatabase.ofRecord r ⟨[]⟩ = .ok db ∧
    Device.ofDatabase db = .ok (.ok d) ∧ r.NamesApart ∧
    d.memberName ⟨1, 1⟩ = .ok "INT_X1Y0/EE4/END" ∧ d.canonicalWire ⟨1, 1⟩ = .ok (.node 0) ∧
    d.wireByName "INT_X1Y0/EE4/END" = .ok (some (.node 0)) := by
  have opens : (do
      let (_, r) ← ChipRecord.build "xcvu" 2 1 quadSteps
      match ChipDatabase.ofRecord r ⟨[]⟩ with
      | .ok db => do
        let opened ← Device.ofDatabase db
        return opened.toOption.map fun d => decide (r.NamesApart ∧
          d.memberName ⟨1, 1⟩ = .ok "INT_X1Y0/EE4/END" ∧ d.canonicalWire ⟨1, 1⟩ = .ok (.node 0))
      | .error _ => return none) = Except.ok (some true) := by decide +kernel
  have once : (BuildStep.joins quadSteps).flatten.Nodup := by decide
  obtain ⟨⟨outs, r⟩, built, h⟩ := bind_eq_ok_iff.1 opens
  cases accepted : ChipDatabase.ofRecord r ⟨[]⟩ with
  | error e => simp [accepted, pure, Except.pure] at h
  | ok db =>
    simp only [accepted] at h
    obtain ⟨d, opened, hcheck⟩ := Device.exists_of_check h
    obtain ⟨names, hname, hhandle⟩ := of_decide_eq_true hcheck
    have member : d.HasMember ⟨1, 1⟩ := Device.hasMember_of_canonicalWire hhandle
    obtain ⟨s, w, hs, hw, found⟩ :=
      (wire_names_resolve built once accepted opened names).1 _ member
    obtain rfl := Except.ok.inj (hs.symm.trans hname)
    obtain rfl := Except.ok.inj (hw.symm.trans hhandle)
    exact ⟨outs, r, db, d, built, once, accepted, opened, names, hname, hhandle, found⟩

end Interconnect
