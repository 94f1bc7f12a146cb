import Interconnect.Proofs.Device.Lookup
import Interconnect.Proofs.Device.Member
import Interconnect.Proofs.Ownership.Run
/-!
# Seats

Who sits where is written down twice: a table names the cell on each bel, and each cell names its
bel. As long as no cell is given a bel by hand the two agree, whatever is asked of the context. A
request to place a cell or to take one off a bel is refused and changes nothing, or it rewrites the
bel that the cell left and the one that it took, and no other.
-/
namespace Interconnect

theorem Netlist.getElem?_modifyCell {n : Netlist} {cell : CellId} {x : Cell}
    (hx : n.cell cell = .ok x) (change : Cell → Cell) (k : CellId) :
    (n.modifyCell cell change).cells[k]? = if k = cell then some (change x) else n.cells[k]? := by
  rw [modifyCell, Array.getElem?_modify]
  by_cases hk : k = cell
  · simp [hk, fetch_eq_ok_iff.1 hx]
  · simp [hk, Ne.symm hk]

namespace Context

variable {c c' : Context} {b y : BelId} {cell other k : CellId} {x x' : Cell} {s : Strength}

def seat (c : Context) (cell : CellId) : Option BelId := (c.netlist.cells[cell]?).bind (·.bel)

theorem seat_eq_some_iff :
    c.seat cell = some b ↔ ∃ x, c.netlist.cell cell = .ok x ∧ x.bel = some b := by
  simp only [seat, Option.bind_eq_some_iff, Netlist.cell, fetch_eq_ok_iff]

theorem seat_of_cell (hx : c.netlist.cell cell = .ok x) : c.seat cell = x.bel := by
  rw [seat, fetch_eq_ok_iff.1 hx, Option.bind_some]

theorem belCell_of_hasBel (hb : c.device.HasBel b) : c.belCell b = .ok c.belCells[b]? := by
  obtain ⟨info, hinfo, -⟩ := Device.answers_bel hb
  rw [belCell, hinfo]
  rfl

theorem belCell_eq_ok_iff {held : Option CellId} :
    c.belCell b = .ok held ↔ c.device.HasBel b ∧ c.belCells[b]? = held := by
  constructor
  · intro h
    obtain ⟨info, hinfo, h⟩ := bind_eq_ok_iff.1 h
    exact ⟨Device.hasBel_of_bel hinfo, Except.ok.inj h⟩
  · rintro ⟨hb, rfl⟩
    exact belCell_of_hasBel hb

/-- The bels and the cells say the same of who sits where, and only bels of the device are taken. -/
structure Seated (c : Context) : Prop where
  holds_iff : ∀ b cell, c.belCells[b]? = some cell ↔ c.seat cell = some b
  inRange : ∀ b cell, c.belCells[b]? = some cell → c.device.HasBel b

/-- From one context to the other a cell has gone to a bel or to none. Only what is said of the cell
and of the bels that it left and took has changed. -/
structure Moves (c c' : Context) (cell : CellId) (x x' : Cell) : Prop where
  was : c.netlist.cell cell = .ok x
  bels : ∀ y, c'.belCells[y]? =
    if x'.bel = some y then some cell else if x.bel = some y then none else c.belCells[y]?
  cells : ∀ k, c'.netlist.cells[k]? = if k = cell then some x' else c.netlist.cells[k]?
  frame : { c' with
    belCells := c.belCells
    netlist := { c'.netlist with cells := c.netlist.cells } } = c

theorem Moves.device (h : c.Moves c' cell x x') : c'.device = c.device :=
  congrArg (·.device) h.frame

theorem Moves.seat (h : c.Moves c' cell x x') (k : CellId) :
    c'.seat k = if k = cell then x'.bel else c.seat k := by
  rw [Context.seat, h.cells]
  by_cases hk : k = cell <;> simp [hk, Context.seat]

/-- A cell that goes to a bel of the device that no other cell holds leaves everybody seated. -/
theorem Seated.moves (hc : c.Seated) (h : c.Moves c' cell x x')
    (hfree : ∀ b, x'.bel = some b →
      c.device.HasBel b ∧ ∀ other, c.belCells[b]? = some other → other = cell) : c'.Seated := by
  have hwas := seat_of_cell h.was
  refine ⟨fun y k => ?_, fun y k hy => ?_⟩
  · rw [h.bels, h.seat]
    by_cases hk : k = cell
    · -- the cell itself is on its new bel, and on no other
      subst k
      have hown := hc.holds_iff y cell
      grind
    · -- another cell is where it was, for the bel that was taken was free of others
      have hother := hc.holds_iff y k
      have hleft := hc.holds_iff y cell
      have htaken := fun b hb => (hfree b hb).2
      grind
  · rw [h.device]
    rw [h.bels] at hy
    split at hy
    · exact (hfree y ‹_›).1
    · split at hy
      · cases hy
      · exact hc.inRange y k hy

/-! ### Placing a cell -/

theorem bindBel_of_other (hb : c.device.HasBel b) (hother : c.belCells[b]? = some other)
    (hne : other ≠ cell) : c.bindBel b cell s = .ok (.error (.belOccupied b other)) := by
  have hfilter : (some other).filter (· ≠ cell) = some other := by simp [hne]
  simp only [bindBel, belCell_of_hasBel hb, hother, hfilter, bind, Except.bind]
  rfl

theorem bindBel_of_free (hb : c.device.HasBel b)
    (hfree : ∀ other, c.belCells[b]? = some other → other = cell)
    (hx : c.netlist.cell cell = .ok x) : ∃ c', c.bindBel b cell s = .ok (.ok c') := by
  have hfilter : (c.belCells[b]?).filter (· ≠ cell) = none := by
    simpa [Option.filter_eq_none_iff] using hfree
  simp only [bindBel, belCell_of_hasBel hb, hfilter, hx, bind, Except.bind]
  exact ⟨_, rfl⟩

theorem bindBel_moves (h : c.bindBel b cell s = .ok (.ok c')) :
    c.device.HasBel b ∧ (∀ other, c.belCells[b]? = some other → other = cell) ∧
      ∃ x, c.Moves c' cell x { x with bel := some b, strength := s } := by
  obtain ⟨info, x, hinfo, hfree, hx, rfl⟩ := bindBel_eq h
  refine ⟨Device.hasBel_of_bel hinfo, by simpa [Option.filter_eq_none_iff] using hfree, x, hx,
    fun y => ?_, Netlist.getElem?_modifyCell hx _, rfl⟩
  cases hbel : x.bel with
  | none => simp [getElem?_insert_ite, eq_comm]
  | some old => by_cases hold : old = b <;> grind [getElem?_insert_ite, getElem?_erase_ite]

/-! ### Taking a cell off its bel -/

theorem unbindBel_of_empty (hn : c.device.Named) (hb : c.device.HasBel b)
    (hempty : c.belCells[b]? = none) :
    ∃ name, c.device.belName b = .ok name ∧ c.unbindBel b = .ok (.error (.notBound name)) := by
  obtain ⟨name, hname, -⟩ := Device.answers_belName hn hb
  refine ⟨name, hname, ?_⟩
  simp only [unbindBel, belCell_of_hasBel hb, hempty, hname, bind, Except.bind]
  rfl

theorem unbindBel_of_locked (hn : c.device.Named) (hb : c.device.HasBel b)
    (hcell : c.belCells[b]? = some cell) (hx : c.netlist.cell cell = .ok x)
    (hs : x.strength = .locked) :
    ∃ name, c.device.belName b = .ok name ∧ c.unbindBel b = .ok (.error (.locked name)) := by
  obtain ⟨name, hname, -⟩ := Device.answers_belName hn hb
  refine ⟨name, hname, ?_⟩
  simp only [unbindBel, belCell_of_hasBel hb, hcell, hx, hs, hname, bind, Except.bind]
  rfl

theorem unbindBel_of_loose (hb : c.device.HasBel b) (hcell : c.belCells[b]? = some cell)
    (hx : c.netlist.cell cell = .ok x) (hs : x.strength ≠ .locked) :
    ∃ c', c.unbindBel b = .ok (.ok (cell, c')) := by
  simp only [unbindBel, belCell_of_hasBel hb, hcell, hx, hs, bind, Except.bind]
  exact ⟨_, rfl⟩

theorem Seated.moves_off (hc : c.Seated) (hcell : c.belCells[b]? = some cell)
    (hx : c.netlist.cell cell = .ok x) :
    x.bel = some b ∧ c.Moves { c with
      belCells := c.belCells.erase b
      netlist := c.netlist.modifyCell cell fun x => { x with bel := none } }
      cell x { x with bel := none } := by
  have hbel : x.bel = some b := by
    rw [← seat_of_cell hx]
    exact (hc.holds_iff b cell).1 hcell
  refine ⟨hbel, hx, fun y => ?_, Netlist.getElem?_modifyCell hx _, rfl⟩
  simp [getElem?_erase_ite, hbel, eq_comm]

end Context

/-! ### Requests of other kinds -/

namespace Netlist

variable {n n' : Netlist}

theorem bel_modifyCell {change : Cell → Cell} (n : Netlist) (i j : CellId)
    (hchange : ∀ x, (change x).bel = x.bel) :
    ((n.modifyCell i change).cells[j]?).bind (·.bel) = (n.cells[j]?).bind (·.bel) := by
  rw [modifyCell, Array.getElem?_modify]
  by_cases hij : i = j
  · cases n.cells[j]? <;> simp [hij, hchange]
  · simp [hij]

theorem edit_bel {e : NetlistEdit} (h : n.edit e = .ok n') (i : CellId) :
    (n'.cells[i]?).bind (·.bel) = (n.cells[i]?).bind (·.bel) := by
  cases edited_of_edit h with
  | refused => rfl
  | cell =>
    simp only [Array.getElem?_push]
    by_cases hi : i = n.cells.size <;> simp [hi]
  | net => rfl
  | @port c => exact bel_modifyCell n c i fun _ => rfl
  | @connect c => exact bel_modifyCell n c i fun _ => rfl

end Netlist

namespace Act

variable {c c' : Context} {a : Act}

/-- Whether a request gives no cell a bel by hand. -/
def KeepsSeats : Act → Prop
  | setCell _ change => ∀ x, (change x).bel = x.bel
  | _ => True

theorem IsPlacing.keepsSeats (ha : a.IsPlacing) : a.KeepsSeats := by
  cases a <;> trivial

theorem perform_seat (hc : c.Coherent) (hp : ¬ a.IsPlacing) (ha : a.KeepsSeats)
    (h : a.perform c = .ok c') : c'.belCells = c.belCells ∧ ∀ cell, c'.seat cell = c.seat cell := by
  by_cases hr : a.IsRouting
  · have hu := (perform_routing hc hr h).2
    have hcells : c'.netlist.cells = c.netlist.cells := congrArg (·.netlist.cells) hu
    exact ⟨congrArg (·.belCells) hu, fun cell => by rw [Context.seat, Context.seat, hcells]⟩
  · rcases plain_cases hr hp h with hsame | ⟨e, n, hn, rfl⟩ | ⟨cell, change, rfl, rfl⟩ |
      ⟨net, name, driver, users, -, rfl⟩ | ⟨name, rfl⟩
    · exact ⟨hsame.bels, fun cell => by rw [Context.seat, Context.seat, hsame.netlist]⟩
    · exact ⟨rfl, Netlist.edit_bel hn⟩
    · exact ⟨rfl, fun k => Netlist.bel_modifyCell _ cell k ha⟩
    · exact ⟨rfl, fun _ => rfl⟩
    · exact ⟨rfl, fun _ => rfl⟩

theorem perform_bel (hc : c.Coherent) (h : a.perform c = .ok c') (b : BelId) :
    c'.device.bel b = c.device.bel b := by
  rcases perform_device hc h with hd | ⟨name, hd⟩ <;> rw [hd]
  rfl

theorem perform_seated (hc : c.Coherent) (hs : c.Seated) (ha : a.KeepsSeats)
    (h : a.perform c = .ok c') : c'.Seated := by
  by_cases hp : a.IsPlacing
  · rcases placing_cases hp h with rfl | ⟨b, cell, s, -, hbound⟩ | ⟨b, cell, -, hleft⟩
    · exact hs
    · obtain ⟨hb, hfree, x, hmoves⟩ := Context.bindBel_moves hbound
      refine hs.moves hmoves fun y hy => ?_
      obtain rfl := Option.some.inj hy
      exact ⟨hb, hfree⟩
    · obtain ⟨hcell, x, hx, -, rfl⟩ := Context.unbindBel_eq hleft
      exact hs.moves (hs.moves_off hcell hx).2 fun y hy => nomatch hy
  · obtain ⟨hbels, hseat⟩ := perform_seat hc hp ha h
    refine ⟨fun b cell => ?_, fun b cell hcell => ?_⟩
    · rw [hbels, hseat]
      exact hs.holds_iff b cell
    · rw [hbels] at hcell
      obtain ⟨info, hinfo, -⟩ := Device.answers_bel (hs.inRange b cell hcell)
      exact Device.hasBel_of_bel ((perform_bel hc h b).trans hinfo)

end Act

theorem Run.seated {P : Context → Act → Prop} {c c' : Context} (hP : ∀ c a, P c a → a.KeepsSeats)
    (hc : c.Coherent) (hs : c.Seated) (h : Run P c c') : c'.Seated := by
  induction h with
  | start => exact hs
  | step hrun ha hperform ih => exact Act.perform_seated (hrun.coherent hc) ih (hP _ _ ha) hperform

theorem Context.seated_new (d : Device) : ({ device := d } : Context).Seated := by
  have hseat (cell : CellId) : ({ device := d } : Context).seat cell = none := rfl
  constructor <;> simp [hseat]

theorem Run.seated_of_new {d : Device} {c : Context}
    (h : Run (fun _ a => a.KeepsSeats) { device := d } c) : c.Seated :=
  h.seated (fun _ _ ha => ha) (Context.coherent_new d) (Context.seated_new d)

theorem Reachable.named {d : Device} {c : Context} (h : Reachable d c) (hd : d.Named) :
    c.device.Named := by
  obtain ⟨names, hdevice⟩ := h.device
  have hlonger := (IdentTable.names_prefix_internAll d.ids names).length_le
  rw [hdevice]
  exact Nat.le_trans hd hlonger

/-! ### What a seated context answers -/

namespace Context.Seated

variable {c c' : Context} {b : BelId} {cell other : CellId} {x x' : Cell}

theorem belCell_iff (hc : c.Seated) : c.belCell b = .ok (some cell) ↔
    ∃ x, c.netlist.cell cell = .ok x ∧ x.bel = some b := by
  rw [belCell_eq_ok_iff, ← seat_eq_some_iff, ← hc.holds_iff]
  exact and_iff_right_of_imp (hc.inRange b cell)

theorem eq_of_belCell {b' : BelId} (hc : c.Seated) (hb : c.belCell b = .ok (some cell))
    (hb' : c.belCell b' = .ok (some cell)) : b = b' := by
  have hseat := (hc.holds_iff b cell).1 (belCell_eq_ok_iff.1 hb).2
  have hseat' := (hc.holds_iff b' cell).1 (belCell_eq_ok_iff.1 hb').2
  exact Option.some.inj (hseat.symm.trans hseat')

theorem eq_of_bel (hc : c.Seated) (hx : c.netlist.cell cell = .ok x) (hxb : x.bel = some b)
    (hx' : c.netlist.cell other = .ok x') (hxb' : x'.bel = some b) : cell = other := by
  have hcell := hc.belCell_iff.2 ⟨x, hx, hxb⟩
  have hother := hc.belCell_iff.2 ⟨x', hx', hxb'⟩
  exact Option.some.inj (Except.ok.inj (hcell.symm.trans hother))

theorem hasBel_of_bel (hc : c.Seated) (hx : c.netlist.cell cell = .ok x) (hb : x.bel = some b) :
    c.device.HasBel b := (belCell_eq_ok_iff.1 (hc.belCell_iff.2 ⟨x, hx, hb⟩)).1

/-- The bels that are asked about are those of the device, before a move and after it. -/
theorem belCell_moves (hc : c.Seated) (h : c.Moves c' cell x x')
    (hto : ∀ b, x'.bel = some b → c.device.HasBel b) (y : BelId) :
    c'.belCell y = if x'.bel = some y then .ok (some cell)
      else if x.bel = some y then .ok none else c.belCell y := by
  by_cases hy : c.device.HasBel y
  · rw [belCell_of_hasBel (h.device ▸ hy), belCell_of_hasBel hy, h.bels]
    split
    · rfl
    · split <;> rfl
  · rw [if_neg fun hto' => hy (hto y hto'), if_neg fun hfrom => hy (hc.hasBel_of_bel h.was hfrom),
      belCell, belCell, h.device]
    cases hbel : c.device.bel y with
    | error f => rfl
    | ok info => exact absurd (Device.hasBel_of_bel hbel) hy

theorem bindBel_cases (hc : c.Seated) (hb : c.device.HasBel b) (hx : c.netlist.cell cell = .ok x)
    (s : Strength) :
    (∃ other, other ≠ cell ∧ c.belCell b = .ok (some other) ∧
      c.bindBel b cell s = .ok (.error (.belOccupied b other))) ∨
    ∃ c', c.bindBel b cell s = .ok (.ok c') ∧
      c.Moves c' cell x { x with bel := some b, strength := s } ∧
      ∀ y, c'.belCell y =
        if y = b then .ok (some cell) else if x.bel = some y then .ok none else c.belCell y := by
  by_cases hfree : ∀ other, c.belCells[b]? = some other → other = cell
  · obtain ⟨c', hc'⟩ := bindBel_of_free (s := s) hb hfree hx
    obtain ⟨-, -, x', hmoves⟩ := bindBel_moves hc'
    obtain rfl : x = x' := Except.ok.inj (hx.symm.trans hmoves.was)
    refine .inr ⟨c', hc', hmoves, fun y => ?_⟩
    have hto (b' : BelId) (hb' : some b = some b') : c.device.HasBel b' := Option.some.inj hb' ▸ hb
    simpa [eq_comm] using hc.belCell_moves hmoves hto y
  · push Not at hfree
    obtain ⟨other, hother, hne⟩ := hfree
    exact .inl ⟨other, hne, belCell_eq_ok_iff.2 ⟨hb, hother⟩, bindBel_of_other hb hother hne⟩

theorem unbindBel_cases (hc : c.Seated) (hn : c.device.Named) (hb : c.device.HasBel b) :
    (∃ e, c.unbindBel b = .ok (.error e)) ∨
    ∃ cell c' x, c.unbindBel b = .ok (.ok (cell, c')) ∧ x.bel = some b ∧ x.strength ≠ .locked ∧
      c.Moves c' cell x { x with bel := none } ∧
      ∀ y, c'.belCell y = if y = b then .ok none else c.belCell y := by
  cases hheld : c.belCells[b]? with
  | none =>
    obtain ⟨name, -, hrefused⟩ := unbindBel_of_empty hn hb hheld
    exact .inl ⟨_, hrefused⟩
  | some cell =>
    obtain ⟨x, hx, hbel⟩ := hc.belCell_iff.1 (belCell_eq_ok_iff.2 ⟨hb, hheld⟩)
    by_cases hlocked : x.strength = .locked
    · obtain ⟨name, -, hrefused⟩ := unbindBel_of_locked hn hb hheld hx hlocked
      exact .inl ⟨_, hrefused⟩
    · obtain ⟨c', hc'⟩ := unbindBel_of_loose hb hheld hx hlocked
      obtain ⟨-, -, -, -, rfl⟩ := unbindBel_eq hc'
      have hmoves := (hc.moves_off hheld hx).2
      refine .inr ⟨cell, _, x, hc', hbel, hlocked, hmoves, fun y => ?_⟩
      simpa [hbel, eq_comm] using hc.belCell_moves hmoves (fun _ h => nomatch h) y

end Context.Seated

/-- A bel holds a cell exactly if the cell names the bel, whatever was placed, moved and taken off
before; so no bel has two cells and no cell two bels. A request to place a cell or to take one off a
bel is refused and leaves the context as it was, or it changes what is said of the cell, of the bel
that it takes and of the bel that it leaves. -/
theorem placement_one_to_one {db : ChipDatabase} {d : Device} {c : Context}
    (opened : Device.ofDatabase db = .ok (.ok d))
    (h : Run (fun _ a => a.KeepsSeats) { device := d } c) :
    (∀ b cell, c.belCell b = .ok (some cell) ↔
      ∃ x, c.netlist.cell cell = .ok x ∧ x.bel = some b) ∧
    (∀ b cell other x y, c.netlist.cell cell = .ok x → x.bel = some b →
      c.netlist.cell other = .ok y → y.bel = some b → cell = other) ∧
    (∀ b b' cell, c.belCell b = .ok (some cell) → c.belCell b' = .ok (some cell) → b = b') ∧
    ∀ b, c.device.HasBel b →
      (∀ cell x s, c.netlist.cell cell = .ok x →
        (∃ other, other ≠ cell ∧ c.belCell b = .ok (some other) ∧
          c.bindBel b cell s = .ok (.error (.belOccupied b other)) ∧
          (Act.bindBel b cell s).perform c = .ok c) ∨
        ∃ c', c.bindBel b cell s = .ok (.ok c') ∧
          c.Moves c' cell x { x with bel := some b, strength := s } ∧
          ∀ y, c'.belCell y =
            if y = b then .ok (some cell) else if x.bel = some y then .ok none else c.belCell y) ∧
      ((∃ e, c.unbindBel b = .ok (.error e) ∧ (Act.unbindBel b).perform c = .ok c) ∨
        ∃ cell c' x, c.unbindBel b = .ok (.ok (cell, c')) ∧ x.bel = some b ∧
          x.strength ≠ .locked ∧ c.Moves c' cell x { x with bel := none } ∧
          ∀ y, c'.belCell y = if y = b then .ok none else c.belCell y) := by
  have hs := h.seated_of_new
  have hreach : Reachable d c := h.mono fun _ _ _ => trivial
  have hn := hreach.named (Device.opened_of_ofDatabase opened).2.named
  refine ⟨fun b cell => hs.belCell_iff, fun b cell other x y => hs.eq_of_bel,
    fun b b' cell => hs.eq_of_belCell, fun b hb => ⟨fun cell x s hx => ?_, ?_⟩⟩
  · rcases hs.bindBel_cases hb hx s with ⟨other, hne, hother, hrefused⟩ | hgranted
    · exact .inl ⟨other, hne, hother, hrefused, by rw [Act.perform, hrefused]; rfl⟩
    · exact .inr hgranted
  · rcases hs.unbindBel_cases hn hb with ⟨e, hrefused⟩ | hgranted
    · exact .inl ⟨e, hrefused, by rw [Act.perform, hrefused]; rfl⟩
    · exact .inr hgranted

/-! A tile with two bels for cells, and a third that only routes. -/

def seatsRecord : ChipRecord where
  name := "xc7a"
  generator := ""
  width := 1
  height := 1
  knownIdCount := Known.count
  extraIds := #["A", "B", "R"]
  tileTypes := #[{
    typeName := 0
    bels := #[⟨Known.count, 0, 0, none, false, #[], none⟩,
      ⟨Known.count + 1, 0, 1, none, false, #[], none⟩,
      ⟨Known.count + 2, 0, 2, none, true, #[], none⟩] }]
  tiles := #[⟨"T", 0, #[], #[]⟩]
  nodes := #[]
  timing := none

theorem exists_performAll {db : ChipDatabase} {as : List Act} {check : Context → Bool}
    (h : (do
      match ← Device.ofDatabase db with
      | .error _ => return false
      | .ok d => return check (← Act.performAll { device := d } as)) = Except.ok true) :
    ∃ d c, Device.ofDatabase db = .ok (.ok d) ∧ Act.performAll { device := d } as = .ok c ∧
      check c = true := by
  obtain ⟨opened, hopened, h⟩ := bind_eq_ok_iff.1 h
  cases opened with
  | error e => cases h
  | ok d =>
    obtain ⟨c, hc, h⟩ := bind_eq_ok_iff.1 h
    exact ⟨d, c, hopened, hc, Except.ok.inj h⟩

/-- Cell 0 moves from the first bel to the second, and the first is free for another cell. -/
theorem placement_one_to_one_seats : ∃ db d c, ChipDatabase.ofRecord seatsRecord ⟨[]⟩ = .ok db ∧
    Device.ofDatabase db = .ok (.ok d) ∧ Run (fun _ a => a.KeepsSeats) { device := d } c ∧
    c.belCell ⟨0, 0⟩ = .ok (some 0) ∧ (∃ x, c.netlist.cell 0 = .ok x ∧ x.bel = some ⟨0, 0⟩) ∧
    ∃ c', c.bindBel ⟨0, 1⟩ 0 .strong = .ok (.ok c') ∧ c'.belCell ⟨0, 0⟩ = .ok none ∧
      c'.belCell ⟨0, 1⟩ = .ok (some 0) := by
  have accepted : ChipDatabase.ofRecord seatsRecord ⟨[]⟩ = .ok ⟨seatsRecord, ⟨[]⟩, rfl⟩ := rfl
  obtain ⟨d, c, opened, hrun, hcheck⟩ := @exists_performAll ⟨seatsRecord, ⟨[]⟩, rfl⟩
    [.edit (.cell "m" 0), .bindBel ⟨0, 0⟩ 0 .weak]
    (fun c => c.belCell ⟨0, 0⟩ = .ok (some 0) ∧ c.belCell ⟨0, 1⟩ = .ok none) (by decide +kernel)
  obtain ⟨hfirst, hsecond⟩ := of_decide_eq_true hcheck
  have hreach : Run (fun _ a => a.KeepsSeats) { device := d } c :=
    Run.start.performAll (by simp [Act.KeepsSeats]) hrun
  obtain ⟨holds, -, -, hmoves⟩ := placement_one_to_one opened hreach
  obtain ⟨x, hx, hbel⟩ := (holds ⟨0, 0⟩ 0).1 hfirst
  have hb := (Context.belCell_eq_ok_iff.1 hsecond).1
  rcases (hmoves ⟨0, 1⟩ hb).1 0 x .strong hx with ⟨_, -, hother, -⟩ | ⟨c', hgranted, -, hcells⟩
  · rw [hsecond] at hother
    cases Except.ok.inj hother
  · refine ⟨_, d, c, accepted, opened, hreach, hfirst, ⟨x, hx, hbel⟩, c', hgranted, ?_, ?_⟩
    · simpa [hbel] using hcells ⟨0, 0⟩
    · simpa using hcells ⟨0, 1⟩

end Interconnect
