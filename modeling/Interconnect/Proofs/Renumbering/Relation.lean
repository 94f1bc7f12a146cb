import Interconnect.Proofs.Ownership.Change
import Interconnect.Proofs.Renumbering.Chip
import Interconnect.Routing.Dedicated
import Mathlib.Data.List.Forall2
import Mathlib.Logic.Equiv.Defs
/-!
# One design in two orders

Cells and nets are numbered in the order in which a design adds them. Two contexts hold one design
when there is a renumbering of its cells and nets that takes all that the first says of them to what
the second says: names, types, placements and pins of cells; drivers, users and routing of nets; and
who holds each wire, pip and bel.
-/
namespace Interconnect

/-- For the number of each net and cell of one design that of the same in another, and which
identifiers of the two stand for each other. -/
structure Renumbering where
  net : Equiv.Perm NetId
  cell : Equiv.Perm CellId
  ident : Ident → Ident → Prop

variable {r : Renumbering} {net : NetId} {s : Strength}

def Hold.renumber (r : Renumbering) (held : Hold) : Hold := { held with net := r.net held.net }

def BindError.renumber (r : Renumbering) : BindError → BindError
  | wireConflict w holder => wireConflict w (holder.renumber r)
  | pipConflict p holder => pipConflict p (holder.renumber r)
  | belOccupied b cell => belOccupied b (r.cell cell)
  | e => e

def RouteError.renumber (r : Renumbering) : RouteError → RouteError
  | sourceRefused net cause => sourceRefused net (cause.renumber r)
  | pathRefused net cause => pathRefused net (cause.renumber r)
  | e => e

namespace Binding

/-- The record of a wire or pip that is held by the net of the other number. -/
def renumber (r : Renumbering) (b : Binding) : Binding := b.map (·.renumber r)

@[simp] theorem admits_renumber (b : Binding) :
    (b.renumber r).admits (r.net net) s = b.admits net s := by
  cases b with
  | none => rfl
  | some held => simp [renumber, admits, Hold.renumber]

@[simp] theorem conflict?_renumber (b : Binding) :
    (b.renumber r).conflict? (r.net net) s = (b.conflict? net s).map (·.renumber r) := by
  rw [conflict?, conflict?, admits_renumber]
  split <;> rfl

@[simp] theorem heldByOther_renumber (b : Binding) :
    (b.renumber r).heldByOther (r.net net) = b.heldByOther net := by
  cases b with
  | none => rfl
  | some held => simp [renumber, heldByOther, Hold.renumber]

@[simp] theorem rebound_renumber (b : Binding) :
    (b.renumber r).rebound (r.net net) s = (b.rebound net s).renumber r := by
  cases b with
  | none => rfl
  | some held =>
    simp only [renumber, rebound, Hold.renumber, Option.map_some, EmbeddingLike.apply_eq_iff_eq]
    split <;> rfl

end Binding

namespace Renumbering

structure SamePort (r : Renumbering) (port port' : PortRef) : Prop where
  cell : port'.cell = r.cell port.cell
  port : r.ident port.port port'.port

structure SameCell (r : Renumbering) (cell cell' : Cell) : Prop where
  name : cell'.name = cell.name
  cellType : r.ident cell.cellType cell'.cellType
  bel : cell'.bel = cell.bel
  belPin : ∀ i i', r.ident i i' → r.ident (cell.belPin i) (cell'.belPin i')

/-- One net, with its users in one order. -/
structure SameNet (r : Renumbering) (net net' : Net) : Prop where
  name : net'.name = net.name
  driver : Option.Rel r.SamePort net.driver net'.driver
  users : List.Forall₂ r.SamePort net.users net'.users
  wires : net'.wires = net.wires

/-- Everything is held by the net of the other number, as strongly. -/
def SameHolds {α : Type} [Ord α] [Std.TransOrd α] (r : Renumbering)
    (holds holds' : Std.ExtTreeMap α Hold) : Prop :=
  ∀ a : α, holds'[a]? = Binding.renumber r holds[a]?

namespace SameHolds

variable {α : Type} [Ord α] [Std.TransOrd α] [Std.LawfulEqOrd α] [DecidableEq α]
  {holds holds' : Std.ExtTreeMap α Hold}

theorem insert (h : r.SameHolds holds holds') (a : α) (held : Hold) :
    r.SameHolds (holds.insert a held) (holds'.insert a (held.renumber r)) := by
  intro x
  rw [getElem?_insert_ite, getElem?_insert_ite]
  split
  · rfl
  · exact h x

theorem erase (h : r.SameHolds holds holds') (a : α) :
    r.SameHolds (holds.erase a) (holds'.erase a) := by
  intro x
  rw [getElem?_erase_ite, getElem?_erase_ite]
  split
  · rfl
  · exact h x

theorem erasePip {holds holds' : Std.ExtTreeMap PipId Hold} (h : r.SameHolds holds holds')
    (p : Option PipId) : r.SameHolds (Context.erasePip holds p) (Context.erasePip holds' p) := by
  cases p with
  | none => exact h
  | some p => exact h.erase p

end SameHolds
end Renumbering

/-- One design in two contexts, on one chip, the second under other numbers. Where only one of the
two is asked for details, the ports have names. -/
structure Context.Renumbered (r : Renumbering) (c c' : Context) : Prop where
  chip : c.device.SameChip c'.device
  names : ∀ i i', r.ident i i' → c.device.SameIdent c'.device i i'
  details : c'.debug = c.debug ∨ ∀ i i', r.ident i i' → c.device.HasIdent i
  cells : ∀ i, Option.Rel r.SameCell c.netlist.cells[i]? c'.netlist.cells[r.cell i]?
  nets : ∀ i, Option.Rel r.SameNet c.netlist.nets[i]? c'.netlist.nets[r.net i]?
  netByName : ∀ name, c'.netlist.netByName name = (c.netlist.netByName name).map r.net
  /-- No two nets have one name. -/
  distinct : ∀ (i j : NetId) name, (c.netlist.nets[i]?).map (·.name) = some name →
    (c.netlist.nets[j]?).map (·.name) = some name → i = j
  wires : r.SameHolds c.wireHolds c'.wireHolds
  pips : r.SameHolds c.pipHolds c'.pipHolds
  bels : ∀ b : BelId, c'.belCells[b]? = (c.belCells[b]?).map r.cell
  sinks : c'.sinkLocations = c.sinkLocations

namespace Context.Renumbered

variable {c c' : Context}

theorem modifyNet_name? (n : Netlist) (net i : NetId)
    (edit : Std.ExtTreeMap WireId RouteEntry → Std.ExtTreeMap WireId RouteEntry) :
    (((n.modifyNet net fun n => { n with wires := edit n.wires }).nets)[i]?).map (·.name) =
      (n.nets[i]?).map (·.name) := by
  rw [Netlist.modifyNet, Array.getElem?_modify]
  split
  · cases n.nets[i]? <;> rfl
  · rfl

theorem nets_modify {nets nets' : Array Net} {i : NetId} (hi : Option.Rel r.SameNet nets[i]? nets'[r.net i]?)
    (net : NetId) (edit : Std.ExtTreeMap WireId RouteEntry → Std.ExtTreeMap WireId RouteEntry) :
    Option.Rel r.SameNet (nets.modify net fun n => { n with wires := edit n.wires })[i]?
      (nets'.modify (r.net net) fun n => { n with wires := edit n.wires })[r.net i]? := by
  rw [Array.getElem?_modify, Array.getElem?_modify]
  by_cases hnet : net = i
  · subst hnet
    rw [if_pos rfl, if_pos rfl]
    generalize nets[net]? = n, nets'[r.net net]? = n' at hi
    cases hi with
    | none => exact .none
    | some h => exact .some ⟨h.name, h.driver, h.users, congrArg edit h.wires⟩
  · rw [if_neg hnet, if_neg (by simpa using hnet)]
    exact hi

theorem change (h : c.Renumbered r c') {wires wires' : Std.ExtTreeMap WireId Hold}
    {pips pips' : Std.ExtTreeMap PipId Hold} (hwires : r.SameHolds wires wires')
    (hpips : r.SameHolds pips pips') (net : NetId)
    (edit : Std.ExtTreeMap WireId RouteEntry → Std.ExtTreeMap WireId RouteEntry) :
    Renumbered r
      { c with
        wireHolds := wires, pipHolds := pips
        netlist := c.netlist.modifyNet net fun n => { n with wires := edit n.wires } }
      { c' with
        wireHolds := wires', pipHolds := pips'
        netlist := c'.netlist.modifyNet (r.net net) fun n => { n with wires := edit n.wires } } where
  chip := h.chip
  names := h.names
  details := h.details
  cells := h.cells
  nets i := nets_modify (h.nets i) net edit
  netByName := h.netByName
  distinct i j name hi hj := by
    rw [modifyNet_name?] at hi hj
    exact h.distinct i j name hi hj
  wires := hwires
  pips := hpips
  bels := h.bels
  sinks := h.sinks

theorem holders (h : c.Renumbered r c') {wires wires' : Std.ExtTreeMap WireId Hold}
    {pips pips' : Std.ExtTreeMap PipId Hold} (hwires : r.SameHolds wires wires')
    (hpips : r.SameHolds pips pips') :
    Renumbered r { c with wireHolds := wires, pipHolds := pips }
      { c' with wireHolds := wires', pipHolds := pips' } where
  __ := h
  wires := hwires
  pips := hpips

end Context.Renumbered
end Interconnect
