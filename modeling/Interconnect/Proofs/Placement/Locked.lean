import Interconnect.Proofs.Placement.Seating
/-!
# Locked placements

A locked cell is not taken off its bel, and its bel goes to no other cell. Only a request to place
the cell itself can move it, or unlock it where it is.
-/
namespace Interconnect

variable {c c' : Context} {cell : CellId} {b : BelId} {a : Act}

def Context.LockedOn (c : Context) (cell : CellId) (b : BelId) : Prop :=
  ∃ x, c.netlist.cell cell = .ok x ∧ x.bel = some b ∧ x.strength = .locked

/-- Whether a request asks for the cell on another bel, or at another strength than locked. -/
def Act.Replaces (cell : CellId) (b : BelId) : Act → Prop
  | bindBel b' cell' s => cell' = cell ∧ ¬ (b' = b ∧ s = .locked)
  | _ => False

instance : Decidable (c.LockedOn cell b) :=
  decidable_of_iff (∃ x ∈ c.netlist.cells[cell]?, x.bel = some b ∧ x.strength = .locked)
    (by simp only [Context.LockedOn, Netlist.cell, fetch_eq_ok_iff, Option.mem_def])

theorem Context.lockedOn_congr (h : c'.netlist.cells[cell]? = c.netlist.cells[cell]?) :
    c'.LockedOn cell b ↔ c.LockedOn cell b := by
  simp only [LockedOn, Netlist.cell, fetch_eq_ok_iff, h]

theorem Act.perform_lockedOn (ha : a.IsPlacing) (hlocked : c.LockedOn cell b)
    (hr : a.Replaces cell b → c' = c) (h : a.perform c = .ok c') : c'.LockedOn cell b := by
  rcases placing_cases ha h with rfl | ⟨b', k, s, rfl, hbound⟩ | ⟨b', k, rfl, hleft⟩
  · exact hlocked
  · obtain ⟨-, -, x, hmoves⟩ := Context.bindBel_moves hbound
    by_cases hk : cell = k
    · subst k
      by_cases hsame : b' = b ∧ s = .locked
      · have hnow := fetch_eq_ok_iff.2 ((hmoves.cells cell).trans (if_pos rfl))
        exact ⟨_, hnow, by simp [hsame], hsame.2⟩
      · exact (hr ⟨rfl, hsame⟩).symm ▸ hlocked
    · exact (Context.lockedOn_congr ((hmoves.cells cell).trans (if_neg hk))).2 hlocked
  · obtain ⟨-, x, hx, hloose, hleft⟩ := Context.unbindBel_eq hleft
    have hk : cell ≠ k := by
      rintro rfl
      obtain ⟨y, hy, -, hs⟩ := hlocked
      obtain rfl : x = y := Except.ok.inj (hx.symm.trans hy)
      exact hloose hs
    have hcells : c'.netlist.cells[cell]? = c.netlist.cells[cell]? := by
      rw [hleft]
      exact (Netlist.getElem?_modifyCell hx _ cell).trans (if_neg hk)
    exact (Context.lockedOn_congr hcells).2 hlocked

theorem Run.lockedOn (hlocked : c.LockedOn cell b)
    (h : Run (fun c a => a.IsPlacing ∧ (a.Replaces cell b → a.perform c = .ok c)) c c') :
    c'.LockedOn cell b := by
  induction h with
  | start => exact hlocked
  | step hrun ha hperform ih =>
    refine Act.perform_lockedOn ha.1 ih (fun hreplaces => ?_) hperform
    exact Except.ok.inj (hperform.symm.trans (ha.2 hreplaces))

/-- A locked cell stays on its bel through all requests to place cells and to take cells off bels if
none is granted that places this cell on another bel or at another strength. -/
theorem locked_cell_stays {d : Device} (h : Reachable d c) (hlocked : c.LockedOn cell b)
    (hrun : Run (fun c a => a.IsPlacing ∧ (a.Replaces cell b → a.perform c = .ok c)) c c') :
    c'.LockedOn cell b ∧ (c.Seated → c'.belCell b = .ok (some cell)) := by
  have hstill := hrun.lockedOn hlocked
  refine ⟨hstill, fun hs => ?_⟩
  have hs' := hrun.seated (fun _ _ ha => ha.1.keepsSeats) h.coherent hs
  obtain ⟨x, hx, hbel, -⟩ := hstill
  exact hs'.belCell_iff.2 ⟨x, hx, hbel⟩

/-- Cell 1 is refused the bel of cell 0 and goes to another, and cell 0 is not taken off its bel. -/
theorem locked_cell_stays_seats : ∃ db d c c', ChipDatabase.ofRecord seatsRecord ⟨[]⟩ = .ok db ∧
    Device.ofDatabase db = .ok (.ok d) ∧ Reachable d c ∧ c.LockedOn 0 ⟨0, 0⟩ ∧
    Act.performAll c [.bindBel ⟨0, 0⟩ 1 .locked, .bindBel ⟨0, 1⟩ 1 .weak, .unbindBel ⟨0, 0⟩] =
      .ok c' ∧ c'.belCell ⟨0, 1⟩ = .ok (some 1) ∧ c'.LockedOn 0 ⟨0, 0⟩ ∧
    c'.belCell ⟨0, 0⟩ = .ok (some 0) := by
  have accepted : ChipDatabase.ofRecord seatsRecord ⟨[]⟩ = .ok ⟨seatsRecord, ⟨[]⟩, rfl⟩ := rfl
  obtain ⟨d, c, opened, hrun, hcheck⟩ := @exists_performAll ⟨seatsRecord, ⟨[]⟩, rfl⟩
    [.edit (.cell "m" 0), .edit (.cell "n" 0), .bindBel ⟨0, 0⟩ 0 .locked]
    (fun c => decide (c.LockedOn 0 ⟨0, 0⟩) && (Act.performAll c
      [.bindBel ⟨0, 0⟩ 1 .locked, .bindBel ⟨0, 1⟩ 1 .weak, .unbindBel ⟨0, 0⟩]).toOption.any
        fun c' => c'.belCell ⟨0, 1⟩ = .ok (some 1))
    (by decide +kernel)
  obtain ⟨hlocked, hlater⟩ := Bool.and_eq_true_iff.1 hcheck
  have hlocked := of_decide_eq_true hlocked
  obtain ⟨c', hc', hother⟩ := exists_of_any hlater
  have hseats : Run (fun _ a => a.KeepsSeats) { device := d } c :=
    Run.start.performAll (by simp [Act.KeepsSeats]) hrun
  have hreach : Reachable d c := hseats.mono fun _ _ _ => trivial
  have hrest : Run (fun c a => a.IsPlacing ∧ (a.Replaces 0 ⟨0, 0⟩ → a.perform c = .ok c)) c c' :=
    Run.start.performAll (by simp [Act.IsPlacing, Act.Replaces]) hc'
  obtain ⟨hstill, hcell⟩ := locked_cell_stays hreach hlocked hrest
  exact ⟨_, d, c, c', accepted, opened, hreach, hlocked, hc', of_decide_eq_true hother, hstill,
    hcell hseats.seated_of_new⟩

/-- A locked cell goes to another bel when it is placed there; placed again where it is, at a lesser
strength, it can be taken off. -/
theorem locked_cell_leaves : ∃ db d c, ChipDatabase.ofRecord seatsRecord ⟨[]⟩ = .ok db ∧
    Device.ofDatabase db = .ok (.ok d) ∧ Run (fun _ a => a.KeepsSeats) { device := d } c ∧
    c.LockedOn 0 ⟨0, 0⟩ ∧
    (∃ c', Act.performAll c [.bindBel ⟨0, 1⟩ 0 .weak] = .ok c' ∧
      c'.belCell ⟨0, 0⟩ = .ok none ∧ c'.belCell ⟨0, 1⟩ = .ok (some 0)) ∧
    ∃ c', Act.performAll c [.bindBel ⟨0, 0⟩ 0 .weak, .unbindBel ⟨0, 0⟩] = .ok c' ∧
      c'.belCell ⟨0, 0⟩ = .ok none := by
  have accepted : ChipDatabase.ofRecord seatsRecord ⟨[]⟩ = .ok ⟨seatsRecord, ⟨[]⟩, rfl⟩ := rfl
  obtain ⟨d, c, opened, hrun, hcheck⟩ := @exists_performAll ⟨seatsRecord, ⟨[]⟩, rfl⟩
    [.edit (.cell "m" 0), .bindBel ⟨0, 0⟩ 0 .locked]
    (fun c => decide (c.LockedOn 0 ⟨0, 0⟩) &&
      ((Act.performAll c [.bindBel ⟨0, 1⟩ 0 .weak]).toOption.any fun c' =>
        c'.belCell ⟨0, 0⟩ = .ok none ∧ c'.belCell ⟨0, 1⟩ = .ok (some 0)) &&
      (Act.performAll c [.bindBel ⟨0, 0⟩ 0 .weak, .unbindBel ⟨0, 0⟩]).toOption.any fun c' =>
        c'.belCell ⟨0, 0⟩ = .ok none)
    (by decide +kernel)
  simp only [Bool.and_eq_true] at hcheck
  obtain ⟨⟨hlocked, hmoved⟩, hunlocked⟩ := hcheck
  obtain ⟨c₁, hc₁, hmoved⟩ := exists_of_any hmoved
  obtain ⟨c₂, hc₂, hunlocked⟩ := exists_of_any hunlocked
  exact ⟨_, d, c, accepted, opened, Run.start.performAll (by simp [Act.KeepsSeats]) hrun,
    of_decide_eq_true hlocked, ⟨c₁, hc₁, of_decide_eq_true hmoved⟩, c₂, hc₂,
    of_decide_eq_true hunlocked⟩

end Interconnect
