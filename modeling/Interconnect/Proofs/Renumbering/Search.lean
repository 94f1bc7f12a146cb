import Interconnect.Proofs.Renumbering.Relation
/-!
# The same ends and the same ways

A search looks at who holds what, never at numbers: it asks only whether a holder is the net that it
searches for. So it meets the same wires in the same order for a net under either of its numbers.
-/
namespace Interconnect.Context.Renumbered

variable {r : Renumbering} {c c' : Context} {port port' : PortRef} {pass : Pass}

/-! ### Ends of nets -/

theorem cell (h : c.Renumbered r c') (i : CellId) :
    AlikeQuery r.SameCell (c.netlist.cell i) (c'.netlist.cell (r.cell i)) :=
  .fetch (h.cells i)

theorem net (h : c.Renumbered r c') (i : NetId) :
    AlikeQuery r.SameNet (c.netlist.net i) (c'.netlist.net (r.net i)) :=
  .fetch (h.nets i)

theorem portWire (h : c.Renumbered r c') (hport : r.SamePort port port') :
    AlikeQuery Eq (c.portWire port) (c'.portWire port') := by
  unfold Context.portWire
  rw [hport.cell]
  apply (h.cell port.cell).bind
  intro cell cell' hcell
  rw [hcell.bel]
  cases cell.bel with
  | none => exact .ok rfl
  | some b =>
    have hpin := hcell.belPin _ _ hport.port
    exact AlikeQuery.of_eq (h.chip.belPinWire (h.names _ _ hpin) b)

theorem sourceWire (h : c.Renumbered r c') (net : NetId) :
    AlikeQuery Eq (c.sourceWire net) (c'.sourceWire (r.net net)) := by
  unfold Context.sourceWire
  apply (h.net net).bind
  rintro ⟨_, driver, _, _⟩ ⟨_, driver', _, _⟩ ⟨_, hdriver, _, _⟩
  cases hdriver with
  | none => exact .ok rfl
  | some hport => exact h.portWire hport

theorem portName (h : c.Renumbered r c') (hport : r.SamePort port port') :
    AlikeQuery Eq (c.portName port) (c'.portName port') := by
  unfold Context.portName
  rw [hport.cell]
  apply (h.cell port.cell).bind
  intro cell cell' hcell
  have hname : AlikeQuery Eq (c.device.nameOf port.port)
      (c'.device.nameOf port'.port) := by
    apply AlikeQuery.fetch
    have hsame : c'.device.ids.names[port'.port]? = c.device.ids.names[port.port]? :=
      h.names _ _ hport.port
    rw [hsame]
    cases c.device.ids.names[port.port]? with
    | none => exact .none
    | some name => exact .some rfl
  apply hname.bind
  intro name name' hname
  rw [hcell.name, hname]
  exact .ok rfl

/-! ### Searching -/

variable {net : NetId}

theorem wireBinding (h : c.Renumbered r c') (w : WireId) :
    c'.wireBinding w = (c.wireBinding w).renumber r := h.wires w

theorem pipBinding (h : c.Renumbered r c') (p : PipId) :
    c'.pipBinding p = (c.pipBinding p).renumber r := h.pips p

theorem wireNet_eq_iff (h : c.Renumbered r c') (w : WireId) :
    c'.wireNet w = some (r.net net) ↔ c.wireNet w = some net := by
  rw [Context.wireNet, Context.wireNet, h.wireBinding]
  cases c.wireBinding w with
  | none => simp [Binding.renumber]
  | some held => simp [Binding.renumber, Hold.renumber]

theorem isPipFreeFor (h : c.Renumbered r c') (p : PipId) :
    c'.isPipFreeFor p (r.net net) = c.isPipFreeFor p net := by
  have hholder : (c'.pipNet p).all (· = r.net net) = (c.pipNet p).all (· = net) := by
    rw [pipNet, pipNet, h.pipBinding]
    cases c.pipBinding p with
    | none => rfl
    | some held => simp [Binding.renumber, Hold.renumber]
  rw [Context.isPipFreeFor, Context.isPipFreeFor, hholder,
    h.chip.same Device.isBlacklisted fun _ => rfl]

theorem expandPip (h : c.Renumbered r c') (f : Frontier) (p : PipId) :
    c'.expandPip pass (r.net net) f p = c.expandPip pass net f p := by
  have hsrc := h.chip.same Device.pipSrcWire fun _ => rfl
  have hintent := h.chip.same Device.wireIntent fun _ => rfl
  simp only [Context.expandPip, h.isPipFreeFor, hsrc, hintent, h.wireBinding,
    Binding.heldByOther_renumber]

theorem visit (h : c.Renumbered r c') (fuel : Nat) (f : Frontier) :
    c'.visit pass (r.net net) fuel f = c.visit pass net fuel f := by
  have huphill := h.chip.same Device.pipsUphill fun _ => rfl
  have hexpand : c'.expandPip pass (r.net net) = c.expandPip pass net := by
    funext f p
    exact h.expandPip f p
  induction fuel generalizing f with
  | zero => rfl
  | succ fuel ih => simp only [Context.visit, h.wireNet_eq_iff, huphill, hexpand, ih]

theorem walkBack (h : c.Renumbered r c') (met : Std.ExtTreeMap WireId (Option PipId)) (fuel : Nat)
    (w : WireId) : c'.walkBack met fuel w = c.walkBack met fuel w := by
  have hdst := h.chip.same Device.pipDstWire fun _ => rfl
  induction fuel generalizing w with
  | zero =>
    unfold Context.walkBack
    rfl
  | succ fuel ih =>
    unfold Context.walkBack
    simp only [hdst, ih]

theorem searchUphill (h : c.Renumbered r c') (sink : WireId) :
    c'.searchUphill pass (r.net net) sink = c.searchUphill pass net sink := by
  have hbound := h.chip.same Device.wireBound fun _ => rfl
  simp only [Context.searchUphill, hbound, h.visit, h.walkBack]

end Interconnect.Context.Renumbered
