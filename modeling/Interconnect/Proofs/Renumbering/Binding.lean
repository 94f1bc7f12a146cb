import Interconnect.Proofs.Ownership.Operation
import Interconnect.Proofs.Renumbering.Search
/-!
# The same bindings

A request for a wire or pip is granted or refused alike under either number of the net that makes it,
and refused because of the same holder. What it takes from other nets is the same too.
-/
namespace Interconnect.Context

/-- A net enters a wire with a pip, in place of the one that drove the wire before. -/
def seatPip (c : Context) (p : PipId) (dst : WireId) (net : NetId) (s : Strength) : Context :=
  let pips := erasePip c.pipHolds ((c.drivingPip net dst).filter (· ≠ p))
  { c with pipHolds := pips.insert p (Binding.rebound pips[p]? net s) }.claimWire dst net s (some p)

theorem device_of_bindPip {c c' : Context} {p : PipId} {net : NetId} {s : Strength}
    (h : c.bindPip p net s = .ok (.ok c')) : c'.device = c.device :=
  device_of_unrouted (unrouted_of_bindPip h)

namespace Renumbered

variable {r : Renumbering} {c c' : Context} {s : Strength}

/-- Both requests are granted, or both are refused for the same reason. -/
abbrev SameAnswer (r : Renumbering) :
    Except BindError Context → Except BindError Context → Prop :=
  Alike (fun e e' => e' = e.renumber r) (Context.Renumbered r)

theorem drivingPip (h : c.Renumbered r c') (net : NetId) (w : WireId) :
    c'.drivingPip (r.net net) w = c.drivingPip net w := by
  have hnet := h.nets net
  unfold Context.drivingPip
  generalize c.netlist.nets[net]? = n, c'.netlist.nets[r.net net]? = n' at hnet
  cases hnet with
  | none => rfl
  | some hnet => simp [hnet.wires]

theorem releaseWire (h : c.Renumbered r c') (w : WireId) :
    (c.releaseWire w).Renumbered r (c'.releaseWire w) := by
  unfold Context.releaseWire
  rw [h.wireBinding]
  cases c.wireBinding w with
  | none => exact h
  | some held =>
    have hdriver : c'.drivingPip (held.renumber r).net w = c.drivingPip held.net w :=
      h.drivingPip held.net w
    simp only [Binding.renumber, Option.map_some, hdriver]
    exact h.change (h.wires.erase w) (h.pips.erasePip _) held.net (·.erase w)

theorem releasePip (h : c.Renumbered r c') (p : PipId) :
    AlikeQuery (Context.Renumbered r) (c.releasePip p) (c'.releasePip p) := by
  unfold Context.releasePip
  rw [h.pipBinding, h.chip.same Device.pipDstWire fun _ => rfl]
  cases c.pipBinding p with
  | none => exact .ok h
  | some held =>
    apply AlikeQuery.bind_same
    intro dst _
    have hdriver : c'.drivingPip (held.renumber r).net dst = c.drivingPip held.net dst :=
      h.drivingPip held.net dst
    simp only [hdriver]
    split
    · exact .ok (h.change (h.wires.erase dst) (h.pips.erase p) held.net (·.erase dst))
    · exact .ok (h.holders h.wires (h.pips.erase p))

theorem claimWire (h : c.Renumbered r c') (w : WireId) (net : NetId) (pip : Option PipId) :
    (c.claimWire w net s pip).Renumbered r (c'.claimWire w (r.net net) s pip) := by
  unfold Context.claimWire
  rw [h.wireBinding, Binding.rebound_renumber]
  exact h.change (h.wires.insert w _) h.pips net fun wires =>
    wires.insert w ⟨pip, ((c.wireBinding w).rebound net s).strength⟩

theorem evict (h : c.Renumbered r c') (w : WireId) (net : NetId) :
    (if (c.wireBinding w).heldByOther net then c.releaseWire w else c).Renumbered r
      (if (c'.wireBinding w).heldByOther (r.net net) then c'.releaseWire w else c') := by
  rw [h.wireBinding, Binding.heldByOther_renumber]
  split
  · exact h.releaseWire w
  · exact h

theorem seatPip (h : c.Renumbered r c') (p : PipId) (dst : WireId) (net : NetId) :
    (c.seatPip p dst net s).Renumbered r (c'.seatPip p dst (r.net net) s) := by
  unfold Context.seatPip
  rw [h.drivingPip]
  have herased := h.pips.erasePip ((c.drivingPip net dst).filter (· ≠ p))
  simp only [herased p, Binding.rebound_renumber]
  exact (h.holders h.wires (herased.insert p _)).claimWire dst net (some p)

theorem bindWire (h : c.Renumbered r c') (w : WireId) (net : NetId) :
    AlikeQuery (SameAnswer r) (c.bindWire w net s) (c'.bindWire w (r.net net) s) := by
  unfold Context.bindWire
  rw [h.wireBinding, Binding.conflict?_renumber]
  cases (c.wireBinding w).conflict? net s with
  | some holder => exact .ok (.error rfl)
  | none =>
    apply (h.net net).bind
    intro _ _ _
    have hfreed := h.evict w net
    rw [h.wireBinding] at hfreed
    simp only [hfreed.drivingPip]
    exact .ok (.ok (hfreed.claimWire w net _))

theorem bindPip (h : c.Renumbered r c') (p : PipId) (net : NetId) :
    AlikeQuery (SameAnswer r) (c.bindPip p net s) (c'.bindPip p (r.net net) s) := by
  unfold Context.bindPip
  rw [h.chip.same Device.isBlacklisted fun _ => rfl, h.chip.same Device.pipDstWire fun _ => rfl]
  apply AlikeQuery.bind_same
  intro excluded _
  cases excluded with
  | true => exact .ok (.error rfl)
  | false =>
    apply AlikeQuery.bind_same
    intro dst _
    rw [h.pipBinding, h.wireBinding, Binding.conflict?_renumber, Binding.conflict?_renumber,
      Binding.heldByOther_renumber]
    cases (c.pipBinding p).conflict? net s with
    | some holder => exact .ok (.error rfl)
    | none =>
      cases (c.wireBinding dst).conflict? net s with
      | some holder => exact .ok (.error rfl)
      | none =>
        apply (h.net net).bind
        intro _ _ _
        by_cases hother : (c.pipBinding p).heldByOther net = true
        · simp only [if_pos hother]
          apply (h.releasePip p).bind
          intro c₁ c₁' h₁
          exact .ok (.ok ((h₁.evict dst net).seatPip p dst net))
        · simp only [if_neg hother]
          exact .ok (.ok ((h.evict dst net).seatPip p dst net))

end Renumbered
end Interconnect.Context
