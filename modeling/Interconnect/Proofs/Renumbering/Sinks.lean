import Interconnect.Proofs.Renumbering.Order
import Interconnect.Proofs.Renumbering.Search
import Interconnect.Proofs.Routing.Search
/-!
# The same sink locations

Where a sink joins the interconnect is found on the chip alone. Only the order in which sinks are
looked at could make a difference, for a wire that two sinks share; and that order is one of names.
-/
namespace Interconnect

namespace Device

variable {d : Device}

theorem isExit_of_visitUphill {limit : Nat} {s : SinkSearch} {exit : WireId} {trail : List WireId}
    (h : d.visitUphill limit s = .ok (some (exit, trail))) : d.isExit exit = .ok true := by
  induction limit generalizing s with
  | zero => cases h
  | succ limit ih =>
    unfold visitUphill at h
    split at h
    · cases h
    · obtain ⟨leaves, hleaves, h⟩ := bind_eq_ok_iff.1 h
      cases leaves with
      | true =>
        obtain ⟨found, _, h⟩ := bind_eq_ok_iff.1 h
        cases h
        exact hleaves
      | false =>
        obtain ⟨pips, _, h⟩ := bind_eq_ok_iff.1 h
        obtain ⟨t, _, h⟩ := bind_eq_ok_iff.1 h
        exact ih h

theorem answers_wireName_of_isExit (hd : d.Named) {w : WireId} {exits : Bool}
    (h : d.isExit w = .ok exits) : Answers (d.wireName w) fun _ => True := by
  obtain ⟨site, hsite, _⟩ := bind_eq_ok_iff.1 h
  obtain ⟨info, hinfo, _⟩ := bind_eq_ok_iff.1 hsite
  obtain ⟨m, hm, hinfo⟩ := bind_eq_ok_iff.1 hinfo
  obtain ⟨tt, typed, inside⟩ := bind_eq_ok_iff.1 hinfo
  rw [wireName, hm]
  exact answers_memberName hd ⟨tt, typed, lt_size_of_fetch inside⟩

end Device

namespace Context

variable {r : Renumbering} {c c' : Context} {user user' : PortRef}

/-- Two searches for sinks that have come to the same point. -/
structure SinkState.Renumbered (r : Renumbering) (s s' : SinkState) : Prop where
  ctx : s.ctx.Renumbered r s'.ctx
  located : s'.located = s.located

namespace Renumbered

theorem setSinkLocation (h : c.Renumbered r c') (w : WireId) (xy : Int × Int) :
    (c.setSinkLocation w xy).2.Renumbered r (c'.setSinkLocation w xy).2 := by
  unfold Context.setSinkLocation
  rw [h.sinks]
  split
  · exact h
  · exact { h with sinks := rfl }

theorem setSinkLocations (h : c.Renumbered r c') (wires : List WireId) (xy : Int × Int) :
    (c.setSinkLocations wires xy).Renumbered r (c'.setSinkLocations wires xy) := by
  induction wires generalizing c c' with
  | nil => exact h
  | cons w wires ih => exact ih (h.setSinkLocation w xy)

theorem externalSink? (h : c.Renumbered r c') (huser : r.SamePort user user') :
    AlikeQuery Eq (c.externalSink? user) (c'.externalSink? user') := by
  unfold Context.externalSink?
  rw [huser.cell, h.chip.same Device.isLogicTile fun _ => rfl]
  apply (h.cell user.cell).bind
  intro cell cell' hcell
  rw [hcell.bel]
  cases cell.bel with
  | none => exact .ok rfl
  | some b =>
    apply AlikeQuery.bind_same
    intro logic _
    cases logic with
    | true => exact .ok rfl
    | false => exact h.portWire huser

end Renumbered

theorem isHandle_of_externalSink? {sink : WireId} (h : c.externalSink? user = .ok (some sink)) :
    c.device.IsHandle sink := by
  obtain ⟨cell, _, h⟩ := bind_eq_ok_iff.1 h
  split at h
  · cases h
  · obtain ⟨logic, _, h⟩ := bind_eq_ok_iff.1 h
    split at h
    · cases h
    · exact isHandle_of_portWire h

variable {s s' : SinkState}

theorem locateUser_alike (hs : s.Renumbered r s') (huser : r.SamePort user user') :
    AlikeQuery (SinkState.Renumbered r) (locateUser s user) (locateUser s' user') := by
  unfold locateUser
  have hlocate : s'.ctx.device.locateSink = s.ctx.device.locateSink := by
    funext sink
    exact hs.ctx.chip.visitUphill _ _
  rw [hlocate]
  apply (hs.ctx.externalSink? huser).answered.bind
  rintro found _ ⟨hfound, _, rfl⟩
  cases found with
  | none => exact .ok hs
  | some sink =>
    simp only [Context.sinkLocation, hs.ctx.sinks]
    split
    · exact .ok hs
    · apply AlikeQuery.bind_same
      intro place hplace
      cases place with
      | none => exact .ok hs
      | some place =>
        obtain ⟨exit, trail⟩ := place
        have hchip := hs.ctx.chip
        have hsink := (isHandle_of_externalSink? hfound).hasWire
        obtain ⟨sinkName, hsinkName, _⟩ := Device.answers_wireName hchip.named hsink
        obtain ⟨exitName, hexitName, _⟩ :=
          Device.answers_wireName_of_isExit hchip.named (Device.isExit_of_visitUphill hplace)
        simp only [hchip.wireName, hsinkName, hexitName, hchip.same Device.wireTile fun _ => rfl,
          hchip.same Device.tileXY fun _ => rfl]
        apply AlikeQuery.bind_same
        intro t _
        apply AlikeQuery.bind_same
        intro xy _
        have hplaced := hs.ctx.setSinkLocations (sink :: trail) xy
        have hcount := congrArg (· + 1) hs.located
        -- each run may leave a note of its own
        split <;> split <;> exact .ok ⟨hplaced, hcount⟩

theorem locateNet_alike (hs : s.Renumbered r s') (net : NetId) :
    AlikeQuery (SinkState.Renumbered r) (locateNet s net) (locateNet s' (r.net net)) := by
  unfold locateNet
  apply (hs.ctx.net net).bind
  intro n n' hn
  apply Alike.foldlM hn.users
  · intro t t' user user' ht huser
    exact locateUser_alike ht huser
  · exact hs

theorem findSinkLocations_alike (h : c.Renumbered r c') (log log' : Log) :
    AlikeQuery (SinkState.Renumbered r) (c.findSinkLocations log) (c'.findSinkLocations log') := by
  have hwalk : AlikeQuery (SinkState.Renumbered r)
      (c.netlist.netsByName.foldlM locateNet { ctx := c, log })
      (c'.netlist.netsByName.foldlM locateNet { ctx := c', log := log' }) := by
    apply Alike.foldlM h.forall₂_netsByName
    · rintro t t' net _ ht rfl
      exact locateNet_alike ht net
    · exact ⟨h, rfl⟩
  apply hwalk.bind
  intro s s' hs
  exact .ok ⟨hs.ctx, hs.located⟩

end Context
end Interconnect
