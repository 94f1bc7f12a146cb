import Interconnect.Netlist
import Interconnect.Proofs.Ownership.Change
import Mathlib.Data.List.Nodup
/-!
# Steps that grow a netlist

A step is refused and changes nothing, or adds a cell of a new name, adds a net, declares a port, or
connects one at both ends. Cells are found by their names throughout. Of several nets with one name only
the latest is found.
-/
namespace Interconnect

/-- The net with one port more: an output drives it, any other port uses it. -/
def Net.attach (net : Net) (r : PortRef) (dir : PinDir) : Net :=
  if dir = .output then { net with driver := some r } else { net with users := net.users ++ [r] }

theorem Net.name_attach (net : Net) (r : PortRef) (dir : PinDir) :
    (net.attach r dir).name = net.name := by
  unfold attach
  split <;> rfl

theorem Net.wires_attach (net : Net) (r : PortRef) (dir : PinDir) :
    (net.attach r dir).wires = net.wires := by
  unfold attach
  split <;> rfl

theorem Net.mem_users_attach {net : Net} {r u : PortRef} {dir : PinDir}
    (h : u ∈ (net.attach r dir).users) : u ∈ net.users ∨ u = r := by
  unfold attach at h
  split at h
  · exact .inl h
  · simpa using h

/-- The name that a step gives to a net. -/
def NetlistEdit.netName? : NetlistEdit → Option String
  | .net name => some name
  | _ => none

namespace Netlist

variable {n n' : Netlist} {e : NetlistEdit} {r s : PortRef} {port : Port}

def port? (n : Netlist) (r : PortRef) : Option Port := (n.cells[r.cell]?).bind (·.ports[r.port]?)

/-- The netlist with a port declared anew. -/
def setPort (n : Netlist) (r : PortRef) (port : Port) : Netlist :=
  n.modifyCell r.cell fun cell => { cell with ports := cell.ports.insert r.port port }

/-- The netlist with a port connected to a net, at both ends. -/
def tie (n : Netlist) (r : PortRef) (dir : PinDir) (i : NetId) : Netlist :=
  (n.setPort r ⟨dir, some i⟩).modifyNet i (·.attach r dir)

def Refuses (n : Netlist) : NetlistEdit → Prop
  | .cell name ty => ∃ error, n.addCell name ty = .error error
  | .connect c p i => ∃ error, n.connect c p i = .ok (.error error)
  | _ => False

/-- What a step makes of a netlist. -/
inductive Edited (n : Netlist) : NetlistEdit → Netlist → Prop
  | refused {e : NetlistEdit} (h : n.Refuses e) : n.Edited e n
  | cell {name : String} {ty : Ident} (hnew : n.cellByName name = none) :
      n.Edited (.cell name ty) { n with
        cells := n.cells.push { name, cellType := ty }
        cellIndex := n.cellIndex.insert name n.cells.size }
  | net {name : String} : n.Edited (.net name) (n.addNet name).2
  | port {c : CellId} {p : Ident} {dir : PinDir} (hcell : c < n.cells.size) :
      n.Edited (.port c p dir) (n.setPort ⟨c, p⟩ ⟨dir, none⟩)
  | connect {c : CellId} {p : Ident} {i : NetId} {dir : PinDir} {net : Net}
      (hport : n.port? ⟨c, p⟩ = some ⟨dir, none⟩) (hnet : n.nets[i]? = some net)
      (hfree : dir = .output → net.driver = none) :
      n.Edited (.connect c p i) (n.tie ⟨c, p⟩ dir i)

theorem edit_of_refuses (h : n.Refuses e) : n.edit e = .ok n := by
  cases e with
  | cell name ty =>
    obtain ⟨error, herror⟩ := h
    rw [edit, herror]
  | connect c p i =>
    obtain ⟨error, herror⟩ := h
    rw [edit, herror]
    rfl
  | net name => exact h.elim
  | port c p dir => exact h.elim

theorem edited_connect {c : CellId} {p : Ident} {i : NetId}
    (h : n.connect c p i = .ok (.ok n')) : n.Edited (.connect c p i) n' := by
  obtain ⟨cell, hcell, h⟩ := bind_eq_ok_iff.1 h
  cases hport : cell.ports[p]? with
  | none => simp [hport, pure, Except.pure] at h
  | some info =>
    obtain ⟨dir, net?⟩ := info
    have hinfo : n.port? ⟨c, p⟩ = some ⟨dir, net?⟩ := by
      rw [port?, fetch_eq_ok_iff.1 hcell]
      exact hport
    simp only [hport] at h
    split at h
    · simp [pure, Except.pure] at h
    · next hloose =>
      obtain rfl : net? = none := by simpa using hloose
      obtain ⟨net, hnet, h⟩ := bind_eq_ok_iff.1 h
      split at h
      · simp [pure, Except.pure] at h
      · next hdriven =>
        obtain rfl := Except.ok.inj (Except.ok.inj h)
        refine .connect hinfo (fetch_eq_ok_iff.1 hnet) fun hdir => ?_
        simpa [hdir] using hdriven

theorem edited_of_edit (h : n.edit e = .ok n') : n.Edited e n' := by
  cases e with
  | cell name ty =>
    by_cases hname : n.cellIndex.contains name = true
    · have hadd : n.addCell name ty = .error (.duplicateCell name) := by rw [addCell, if_pos hname]
      obtain rfl : n = n' := Except.ok.inj (by rwa [edit, hadd] at h)
      exact .refused ⟨_, hadd⟩
    · rw [edit, addCell, if_neg hname] at h
      obtain rfl := Except.ok.inj h
      exact .cell (by simpa [cellByName] using hname)
  | net name =>
    obtain rfl := Except.ok.inj h
    exact .net
  | port c p dir =>
    obtain ⟨cell, hcell, h⟩ := bind_eq_ok_iff.1 h
    obtain rfl := Except.ok.inj h
    exact .port (lt_size_of_fetch hcell)
  | connect c p i =>
    obtain ⟨answer, hanswer, h⟩ := bind_eq_ok_iff.1 h
    cases answer with
    | error error =>
      obtain rfl : n = n' := Except.ok.inj h
      exact .refused ⟨error, hanswer⟩
    | ok added =>
      obtain rfl : added = n' := Except.ok.inj h
      exact edited_connect hanswer

/-! ### Ports -/

theorem port?_setPort (hcell : r.cell < n.cells.size) :
    (n.setPort r port).port? s = if s = r then some port else n.port? s := by
  obtain ⟨c, p⟩ := r
  obtain ⟨d, q⟩ := s
  simp only [port?, setPort, modifyCell, Array.getElem?_modify, PortRef.mk.injEq]
  by_cases hc : c = d
  · subst hc
    rw [Array.getElem?_eq_getElem hcell]
    simp [getElem?_insert_ite]
  · simp [hc, Ne.symm hc]

theorem port?_tie {dir : PinDir} {i : NetId} (hcell : r.cell < n.cells.size) :
    (n.tie r dir i).port? s = if s = r then some ⟨dir, some i⟩ else n.port? s :=
  port?_setPort hcell

theorem getElem?_nets_tie {dir : PinDir} {i j : NetId} :
    (n.tie r dir i).nets[j]? =
      if i = j then (n.nets[j]?).map (·.attach r dir) else n.nets[j]? :=
  Array.getElem?_modify

theorem lt_size_of_port? (h : n.port? r = some port) : r.cell < n.cells.size := by
  obtain ⟨cell, hcell, -⟩ := Option.bind_eq_some_iff.1 h
  exact (Array.getElem?_eq_some_iff.1 hcell).1

/-! ### Names -/

/-- Each cell is found by its name. -/
def CellsNamed (n : Netlist) : Prop :=
  ∀ (i : CellId) (cell : Cell), n.cells[i]? = some cell → n.cellByName cell.name = some i

def netNames (n : Netlist) : List String := n.nets.toList.map (·.name)

/-- A net's name stands for the net or for a later one of the same name. -/
def NetsNamed (n : Netlist) : Prop :=
  ∀ (i : NetId) (name : String), n.netNames[i]? = some name →
    ∃ j : NetId, n.netByName name = some j ∧ i ≤ j ∧ n.netNames[j]? = some name

theorem cellsNamed_setPort (h : n.CellsNamed) : (n.setPort r port).CellsNamed := by
  intro i cell hcell
  simp only [setPort, modifyCell, Array.getElem?_modify] at hcell
  split at hcell
  · obtain ⟨old, hold, rfl⟩ := Option.map_eq_some_iff.1 hcell
    exact h i old hold
  · exact h i cell hcell

theorem Edited.cellsNamed (h : n.Edited e n') (hn : n.CellsNamed) : n'.CellsNamed := by
  cases h with
  | refused h => exact hn
  | @cell name ty hnew =>
    intro i cell hcell
    simp only [Array.getElem?_push] at hcell
    simp only [cellByName, getElem?_insert_ite]
    split at hcell
    · next hi =>
      obtain rfl := Option.some.inj hcell
      simp [hi]
    · have hfound := hn i cell hcell
      have hne : cell.name ≠ name := by
        intro hname
        rw [hname, hnew] at hfound
        cases hfound
      rw [if_neg hne]
      exact hfound
  | net => exact hn
  | port hcell => exact cellsNamed_setPort hn
  | connect hport hnet hfree => exact cellsNamed_setPort (n := n) hn

theorem netNames_tie {dir : PinDir} {i : NetId} : (n.tie r dir i).netNames = n.netNames := by
  apply List.ext_getElem?
  intro j
  simp only [netNames, List.getElem?_map, Array.getElem?_toList, getElem?_nets_tie]
  split <;> cases n.nets[j]? <;> simp [Net.name_attach]

theorem Edited.netNames_eq (h : n.Edited e n') : n'.netNames = n.netNames ++ e.netName?.toList := by
  cases h with
  | refused h =>
    cases e with
    | net name => exact h.elim
    | cell name ty => simp [NetlistEdit.netName?]
    | port c p dir => simp [NetlistEdit.netName?]
    | connect c p i => simp [NetlistEdit.netName?]
  | cell hnew => simp [netNames, NetlistEdit.netName?]
  | net => simp [netNames, addNet, NetlistEdit.netName?]
  | port hcell => simp [netNames, setPort, modifyCell, NetlistEdit.netName?]
  | connect hport hnet hfree => simp [netNames_tie, NetlistEdit.netName?]

theorem Edited.netIndex_eq (h : n.Edited e n') (he : e.netName? = none) :
    n'.netIndex = n.netIndex := by
  cases h with
  | net => cases he
  | refused h => rfl
  | cell hnew => rfl
  | port hcell => rfl
  | connect hport hnet hfree => rfl

theorem Edited.netsNamed (h : n.Edited e n') (hn : n.NetsNamed) : n'.NetsNamed := by
  cases he : e.netName? with
  | none =>
    have hnames := h.netNames_eq
    rw [he, Option.toList_none, List.append_nil] at hnames
    unfold NetsNamed netByName
    rw [hnames, h.netIndex_eq he]
    exact hn
  | some added =>
    have hnet : e = .net added := by
      cases e <;> simp [NetlistEdit.netName?] at he
      rw [he]
    subst hnet
    cases h with
    | refused h => exact h.elim
    | net =>
      have hnames : (n.addNet added).2.netNames = n.netNames ++ [added] := by
        simp [netNames, addNet]
      have hsize : n.netNames.length = n.nets.size := by simp [netNames]
      intro i name hi
      have hfound : (n.addNet added).2.netByName name =
          if name = added then some n.nets.size else n.netByName name := getElem?_insert_ite ..
      rw [hnames] at hi ⊢
      rw [hfound]
      by_cases hname : name = added
      · have hlt := (List.getElem?_eq_some_iff.1 hi).1
        refine ⟨n.nets.size, if_pos hname, ?_, ?_⟩
        · exact Nat.le_of_lt_succ (by simpa [hsize] using hlt)
        · simp [hname, ← hsize]
      · have hold : n.netNames[i]? = some name := by
          rw [List.getElem?_append] at hi
          split at hi
          · exact hi
          · rw [List.getElem?_singleton] at hi
            split at hi
            · exact absurd (Option.some.inj hi).symm hname
            · cases hi
        obtain ⟨j, hj, hle, hlater⟩ := hn i name hold
        refine ⟨j, by rwa [if_neg hname], hle, ?_⟩
        rw [List.getElem?_append_left (List.getElem?_eq_some_iff.1 hlater).1]
        exact hlater

/-- Each net is found by its name exactly if no two nets have one name. -/
theorem NetsNamed.found_iff (hn : n.NetsNamed) :
    (∀ (i : NetId) (net : Net), n.nets[i]? = some net → n.netByName net.name = some i) ↔
      n.netNames.Nodup := by
  have hname (i : NetId) (name : String) :
      n.netNames[i]? = some name ↔ ∃ net, n.nets[i]? = some net ∧ net.name = name := by
    simp [netNames]
  rw [List.nodup_iff_getElem?_ne_getElem?]
  constructor
  · intro h i j hij hj heq
    obtain ⟨net, hnet, hj⟩ := (hname j _).1 (List.getElem?_eq_getElem hj)
    have hsame : n.netNames[i]? = some net.name := heq.trans ((hname j _).2 ⟨net, hnet, rfl⟩)
    obtain ⟨other, hother, hi⟩ := (hname i _).1 hsame
    have hboth := h i other hother
    rw [hi, h j net hnet] at hboth
    exact absurd (Option.some.inj hboth) (Nat.ne_of_gt hij)
  · intro h i net hnet
    obtain ⟨j, hj, hle, hlater⟩ := hn i net.name ((hname i _).2 ⟨net, hnet, rfl⟩)
    rcases Nat.lt_or_eq_of_le hle with hlt | rfl
    · have hsame : n.netNames[i]? = n.netNames[j]? :=
        ((hname i _).2 ⟨net, hnet, rfl⟩).trans hlater.symm
      exact absurd hsame (h i j hlt (List.getElem?_eq_some_iff.1 hlater).1)
    · exact hj

end Netlist
end Interconnect
