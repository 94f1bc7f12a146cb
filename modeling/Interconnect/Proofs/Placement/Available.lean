import Interconnect.Proofs.Placement.Seating
/-!
# Bels that can take a cell

Whether a bel can take a cell is answered in two places. The question says no for a bel that holds a
cell and for one that only routes; the request to place a cell is refused by the first alone. So the
two agree on every bel but an empty one that only routes.
-/
namespace Interconnect

namespace Context

variable {c : Context} {b : BelId} {info : Bel} {cell : CellId} {x : Cell} {s : Strength}

theorem isBelFree_eq (h : c.device.bel b = .ok info) :
    c.isBelFree b = .ok (!info.isRouting && (c.belCells[b]?).isNone) := by
  rw [isBelFree, h, belCell_of_hasBel (Device.hasBel_of_bel h)]
  rfl

theorem isBelFree_iff (h : c.device.bel b = .ok info) :
    c.isBelFree b = .ok true ↔ info.isRouting = false ∧ c.belCell b = .ok none := by
  rw [isBelFree_eq h, belCell_of_hasBel (Device.hasBel_of_bel h)]
  simp

theorem Seated.bindBel_iff (hc : c.Seated) (hb : c.device.HasBel b)
    (hx : c.netlist.cell cell = .ok x) (hunplaced : x.bel = none) :
    (∃ c', c.bindBel b cell s = .ok (.ok c')) ↔ c.belCell b = .ok none := by
  rw [belCell_of_hasBel hb]
  constructor
  · rintro ⟨c', hc'⟩
    obtain ⟨-, hfree, -⟩ := bindBel_moves hc'
    cases hheld : c.belCells[b]? with
    | none => rfl
    | some held =>
      obtain rfl := hfree held hheld
      have hseat := (hc.holds_iff b held).1 hheld
      rw [seat_of_cell hx, hunplaced] at hseat
      cases hseat
  · intro hempty
    have hempty := Except.ok.inj hempty
    exact bindBel_of_free hb (by simp [hempty]) hx

/-- No cell sits on a bel that only routes. -/
def SparesRouting (c : Context) : Prop :=
  ∀ b cell info, c.belCells[b]? = some cell → c.device.bel b = .ok info → info.isRouting = false

end Context

namespace Act

variable {c c' : Context} {a : Act}

/-- Whether a request places a cell on a bel that only routes. -/
def SeatsOnRouting (c : Context) : Act → Prop
  | bindBel b _ _ => ∃ info, c.device.bel b = .ok info ∧ info.isRouting = true
  | _ => False

theorem perform_sparesRouting (hc : c.Coherent) (hs : c.SparesRouting) (ha : a.KeepsSeats)
    (hr : ¬ a.SeatsOnRouting c) (h : a.perform c = .ok c') : c'.SparesRouting := by
  intro b cell info hcell hinfo
  rw [perform_bel hc h] at hinfo
  by_cases hp : a.IsPlacing
  · rcases placing_cases hp h with rfl | ⟨b', k, s, rfl, hbound⟩ | ⟨b', k, rfl, hleft⟩
    · exact hs b cell info hcell hinfo
    · obtain ⟨-, -, x, hmoves⟩ := Context.bindBel_moves hbound
      rw [hmoves.bels] at hcell
      split at hcell
      · obtain rfl : b' = b := Option.some.inj ‹_›
        exact Bool.eq_false_iff.2 fun hrouting => hr ⟨info, hinfo, hrouting⟩
      · split at hcell
        · cases hcell
        · exact hs b cell info hcell hinfo
    · obtain ⟨-, x, -, -, rfl⟩ := Context.unbindBel_eq hleft
      simp only [getElem?_erase_ite] at hcell
      split at hcell
      · cases hcell
      · exact hs b cell info hcell hinfo
  · rw [(perform_seat hc hp ha h).1] at hcell
    exact hs b cell info hcell hinfo

end Act

theorem Run.sparesRouting {c c' : Context} (hc : c.Coherent) (hs : c.SparesRouting)
    (h : Run (fun c a => a.KeepsSeats ∧ ¬ a.SeatsOnRouting c) c c') : c'.SparesRouting := by
  induction h with
  | start => exact hs
  | step hrun ha hperform ih =>
    exact Act.perform_sparesRouting (hrun.coherent hc) ih ha.1 ha.2 hperform

/-- A cell without a bel can be placed on a bel exactly if the bel is said to be free, unless it only
routes and is empty: then it is not said to be free, and takes the cell. No bel that only routes holds
a cell as long as no cell is placed on one. -/
theorem placed_iff_free {d : Device} {c : Context}
    (h : Run (fun _ a => a.KeepsSeats) { device := d } c) :
    (∀ b info cell x s, c.device.bel b = .ok info → c.netlist.cell cell = .ok x → x.bel = none →
      (info.isRouting = false →
        ((∃ c', c.bindBel b cell s = .ok (.ok c')) ↔ c.isBelFree b = .ok true)) ∧
      (info.isRouting = true → c.isBelFree b = .ok false ∧
        ((∃ c', c.bindBel b cell s = .ok (.ok c')) ↔ c.belCell b = .ok none))) ∧
    (Run (fun c a => a.KeepsSeats ∧ ¬ a.SeatsOnRouting c) { device := d } c →
      ∀ b cell info, c.belCell b = .ok (some cell) → c.device.bel b = .ok info →
        info.isRouting = false) := by
  have hs := h.seated_of_new
  constructor
  · intro b info cell x s hinfo hx hunplaced
    have hbind := hs.bindBel_iff (s := s) (Device.hasBel_of_bel hinfo) hx hunplaced
    constructor
    · intro hplaceable
      rw [hbind, Context.isBelFree_iff hinfo, and_iff_right hplaceable]
    · intro hrouting
      exact ⟨by rw [Context.isBelFree_eq hinfo, hrouting]; rfl, hbind⟩
  · intro hrun b cell info hcell hinfo
    have hspares := hrun.sparesRouting (Context.coherent_new d) (by simp [Context.SparesRouting])
    exact hspares b cell info (Context.belCell_eq_ok_iff.1 hcell).2 hinfo

theorem placed_iff_free_seats : ∃ db d c, ChipDatabase.ofRecord seatsRecord ⟨[]⟩ = .ok db ∧
    Device.ofDatabase db = .ok (.ok d) ∧ Run (fun _ a => a.KeepsSeats) { device := d } c ∧
    c.isBelFree ⟨0, 0⟩ = .ok true ∧ (∃ c', c.bindBel ⟨0, 0⟩ 1 .weak = .ok (.ok c')) ∧
    c.isBelFree ⟨0, 1⟩ = .ok false ∧ ¬ (∃ c', c.bindBel ⟨0, 1⟩ 1 .weak = .ok (.ok c')) := by
  have accepted : ChipDatabase.ofRecord seatsRecord ⟨[]⟩ = .ok ⟨seatsRecord, ⟨[]⟩, rfl⟩ := rfl
  obtain ⟨d, c, opened, hrun, hcheck⟩ := @exists_performAll ⟨seatsRecord, ⟨[]⟩, rfl⟩
    [.edit (.cell "m" 0), .edit (.cell "n" 0), .bindBel ⟨0, 1⟩ 0 .weak]
    (fun c => decide (c.isBelFree ⟨0, 0⟩ = .ok true ∧ c.isBelFree ⟨0, 1⟩ = .ok false) &&
      ((c.device.bel ⟨0, 0⟩).toOption.any (!·.isRouting) &&
      (c.device.bel ⟨0, 1⟩).toOption.any (!·.isRouting)) &&
      (c.netlist.cell 1).toOption.any fun x => x.bel = none) (by decide +kernel)
  simp only [Bool.and_eq_true, decide_eq_true_eq] at hcheck
  obtain ⟨⟨⟨hfirst, hsecond⟩, hbel, hbel'⟩, hcell⟩ := hcheck
  obtain ⟨info, hinfo, hplaceable⟩ := exists_of_any hbel
  obtain ⟨info', hinfo', hplaceable'⟩ := exists_of_any hbel'
  obtain ⟨x, hx, hunplaced⟩ := exists_of_any hcell
  have hreach : Run (fun _ a => a.KeepsSeats) { device := d } c :=
    Run.start.performAll (by simp [Act.KeepsSeats]) hrun
  have hunplaced := of_decide_eq_true hunplaced
  have hagree := (placed_iff_free hreach).1
  have hempty := (hagree _ _ 1 x .weak hinfo hx hunplaced).1 (by simpa using hplaceable)
  have htaken := (hagree _ _ 1 x .weak hinfo' hx hunplaced).1 (by simpa using hplaceable')
  refine ⟨_, d, c, accepted, opened, hreach, hfirst, hempty.2 hfirst, hsecond, fun hplaced => ?_⟩
  rw [htaken, hsecond] at hplaced
  cases Except.ok.inj hplaced

/-- A bel that only routes is not free, and takes a cell. -/
theorem routing_bel_taken : ∃ db d c, ChipDatabase.ofRecord seatsRecord ⟨[]⟩ = .ok db ∧
    Device.ofDatabase db = .ok (.ok d) ∧ Run (fun _ a => a.KeepsSeats) { device := d } c ∧
    (∃ info, c.device.bel ⟨0, 2⟩ = .ok info ∧ info.isRouting = true) ∧
    (∃ x, c.netlist.cell 0 = .ok x ∧ x.bel = none) ∧ c.isBelFree ⟨0, 2⟩ = .ok false ∧
    ∃ c', c.bindBel ⟨0, 2⟩ 0 .weak = .ok (.ok c') ∧ c'.belCell ⟨0, 2⟩ = .ok (some 0) := by
  have accepted : ChipDatabase.ofRecord seatsRecord ⟨[]⟩ = .ok ⟨seatsRecord, ⟨[]⟩, rfl⟩ := rfl
  obtain ⟨d, c, opened, hrun, hcheck⟩ := @exists_performAll ⟨seatsRecord, ⟨[]⟩, rfl⟩
    [.edit (.cell "m" 0)]
    (fun c => decide (c.isBelFree ⟨0, 2⟩ = .ok false) &&
      (c.device.bel ⟨0, 2⟩).toOption.any (·.isRouting) &&
      ((c.netlist.cell 0).toOption.any fun x => x.bel = none) &&
      (c.bindBel ⟨0, 2⟩ 0 .weak).toOption.any fun answer => answer.toOption.any fun c' =>
        c'.belCell ⟨0, 2⟩ = .ok (some 0)) (by decide +kernel)
  simp only [Bool.and_eq_true, decide_eq_true_eq] at hcheck
  obtain ⟨⟨⟨hfree, hbel⟩, hcell⟩, htaken⟩ := hcheck
  obtain ⟨x, hx, hunplaced⟩ := exists_of_any hcell
  obtain ⟨answer, hanswer, htaken⟩ := exists_of_any htaken
  cases answer with
  | error e => cases htaken
  | ok c' =>
    exact ⟨_, d, c, accepted, opened, Run.start.performAll (by simp [Act.KeepsSeats]) hrun,
      exists_of_any hbel, ⟨x, hx, of_decide_eq_true hunplaced⟩, hfree, c', hanswer,
      of_decide_eq_true htaken⟩

end Interconnect
