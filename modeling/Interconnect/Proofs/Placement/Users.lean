import Interconnect.Proofs.Placement.Seating
/-!
# Users of nets

A net lists its users as ports of cells. A port that is connected belongs to a cell of the netlist, and
no cell is ever taken away, so unless a net is given other users by hand each user leads to a cell, and
from there, where the cell is placed, to a bel of the device.
-/
namespace Interconnect

namespace Netlist

variable {n n' : Netlist}

/-- Every user of a net is a port of some cell of the netlist. -/
def UsersNamed (n : Netlist) : Prop :=
  ∀ (i : NetId) (net : Net), n.nets[i]? = some net → ∀ u ∈ net.users, u.cell < n.cells.size

theorem UsersNamed.of_nets (h : n.UsersNamed) (hnets : n'.nets = n.nets)
    (hcells : n.cells.size ≤ n'.cells.size) : n'.UsersNamed := by
  intro i net hnet u hu
  rw [hnets] at hnet
  exact Nat.lt_of_lt_of_le (h i net hnet u hu) hcells

theorem UsersNamed.modifyCell (h : n.UsersNamed) (cell : CellId) (change : Cell → Cell) :
    (n.modifyCell cell change).UsersNamed :=
  h.of_nets rfl (Nat.le_of_eq Array.size_modify.symm)

theorem UsersNamed.modifyNet (h : n.UsersNamed) {change : Net → Net} (i : NetId)
    (hchange : ∀ net, ∀ u ∈ (change net).users, u ∈ net.users ∨ u.cell < n.cells.size) :
    (n.modifyNet i change).UsersNamed := by
  intro j net hnet u hu
  rw [Netlist.modifyNet, Array.getElem?_modify] at hnet
  split at hnet
  · obtain ⟨old, hold, rfl⟩ := Option.map_eq_some_iff.1 hnet
    rcases hchange old u hu with hu | hlt
    · exact h j old hold u hu
    · exact hlt
  · exact h j net hnet u hu

theorem UsersNamed.edit {e : NetlistEdit} (hn : n.UsersNamed) (h : n.edit e = .ok n') :
    n'.UsersNamed := by
  cases edited_of_edit h with
  | refused => exact hn
  | cell => exact hn.of_nets rfl (by rw [Array.size_push]; exact Nat.le_succ _)
  | net =>
    intro i net hnet u hu
    rw [addNet, Array.getElem?_push] at hnet
    split at hnet
    · -- a net that is new has no users yet
      obtain rfl := Option.some.inj hnet
      cases hu
    · exact hn i net hnet u hu
  | @port c => exact hn.modifyCell c _
  | @connect c p i dir _ hport =>
    refine (hn.modifyCell c _).modifyNet i fun net u hu => (Net.mem_users_attach hu).imp_right ?_
    rintro rfl
    rw [Netlist.modifyCell, Array.size_modify]
    exact lt_size_of_port? hport

end Netlist

namespace Act

variable {c c' : Context} {a : Act}

/-- Whether a request gives no net a user that is no port of a cell. -/
def NamesCells (c : Context) : Act → Prop
  | setNet _ _ _ users => ∀ u ∈ users, u.cell < c.netlist.cells.size
  | _ => True

theorem perform_usersNamed (hc : c.Coherent) (hn : c.netlist.UsersNamed) (ha : a.NamesCells c)
    (h : a.perform c = .ok c') : c'.netlist.UsersNamed := by
  by_cases hr : a.IsRouting
  · have hu := (perform_routing hc hr h).2
    have hcells : c'.netlist.cells = c.netlist.cells := congrArg (·.netlist.cells) hu
    intro i net hnet u huser
    have hsame := Context.getElem?_nets_of_unrouted hu i
    rw [hnet] at hsame
    obtain ⟨old, hold, heq⟩ := Option.map_eq_some_iff.1 hsame.symm
    have husers : old.users = net.users := congrArg (·.users) heq
    rw [hcells]
    exact hn i old hold u (husers ▸ huser)
  by_cases hp : a.IsPlacing
  · rcases placing_cases hp h with rfl | ⟨b, cell, s, -, hbound⟩ | ⟨b, cell, -, hleft⟩
    · exact hn
    · obtain ⟨_, _, -, -, -, rfl⟩ := Context.bindBel_eq hbound
      exact hn.modifyCell cell _
    · obtain ⟨-, _, -, -, rfl⟩ := Context.unbindBel_eq hleft
      exact hn.modifyCell cell _
  · rcases plain_cases hr hp h with hsame | ⟨e, n, hedit, rfl⟩ | ⟨cell, change, -, rfl⟩ |
      ⟨net, name, driver, users, rfl, rfl⟩ | ⟨name, rfl⟩
    · rw [hsame.netlist]
      exact hn
    · exact hn.edit hedit
    · exact hn.modifyCell cell _
    · exact hn.modifyNet net fun _ u hu => .inr (ha u hu)
    · exact hn

end Act

theorem Run.usersNamed {P : Context → Act → Prop} {c c' : Context}
    (hP : ∀ c a, P c a → a.NamesCells c) (hc : c.Coherent) (hn : c.netlist.UsersNamed)
    (h : Run P c c') : c'.netlist.UsersNamed := by
  induction h with
  | start => exact hn
  | step hrun ha hperform ih =>
    exact Act.perform_usersNamed (hrun.coherent hc) ih (hP _ _ ha) hperform

/-- Every user of a net is a port of some cell, which is on no bel or on one of the device. -/
def Context.UsersInRange (c : Context) : Prop :=
  ∀ net n, c.netlist.net net = .ok n → ∀ user ∈ n.users,
    ∃ x, c.netlist.cell user.cell = .ok x ∧ ∀ b, x.bel = some b → c.device.HasBel b

/-- Where neither cells are given bels nor nets users of no cell by hand, users lead to bels. -/
theorem Run.usersInRange_of_new {d : Device} {c : Context}
    (h : Run (fun c a => a.KeepsSeats ∧ a.NamesCells c) { device := d } c) : c.UsersInRange := by
  have hseated : c.Seated := (h.mono fun _ _ ha => ha.1).seated_of_new
  have hnamed : c.netlist.UsersNamed :=
    h.usersNamed (fun _ _ ha => ha.2) (Context.coherent_new d) fun _ _ hnet => by simp at hnet
  intro net n hnet user huser
  have hlt := hnamed net n (fetch_eq_ok_iff.1 hnet) user huser
  have hcell : c.netlist.cell user.cell = .ok c.netlist.cells[user.cell] := fetch_of_lt hlt
  exact ⟨_, hcell, fun b hb => hseated.hasBel_of_bel hcell hb⟩

end Interconnect
