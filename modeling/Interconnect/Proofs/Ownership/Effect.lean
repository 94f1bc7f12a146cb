import Interconnect.Proofs.Device.Range
import Interconnect.Proofs.Ownership.Run
/-!
# What a binding changes

A request to bind a wire or a pip is granted exactly when the records that it would rewrite admit the
net. It then gives the net one wire: the previous owner loses the wire with the pip that drove it, and
every other wire, every other pip and the rest of every routing stay as they were. A refused request
changes nothing.
-/
namespace Interconnect

namespace Context

variable {c c' : Context} {w dst : WireId} {p q : PipId} {net : NetId} {s : Strength}

/-- From one context to the other a net has taken a wire, which a pip drives for it, or none. Apart
from records of wires and pips and from routing nothing has changed; of the wires only this one has,
and of the routing only what the net and the previous owner say of it. -/
structure TakesWire (c c' : Context) (w : WireId) (net : NetId) (s : Strength)
    (driver : Option PipId) : Prop where
  unrouted : c'.unrouted = c.unrouted
  wire : c'.wireBinding w = some ((c.wireBinding w).rebound net s)
  others : ∀ x, x ≠ w → c'.wireBinding x = c.wireBinding x
  entry : c'.entry net w = some ⟨driver, ((c.wireBinding w).rebound net s).strength⟩
  previous : ∀ n, c.wireNet w = some n → n ≠ net → c'.entry n w = none
  frame : ∀ n x, x ≠ w ∨ n ≠ net ∧ c.wireNet w ≠ some n → c'.entry n x = c.entry n x

theorem Change.takesWire {t : Tenure} (hc : c.Coherent) (h : c.Change c' w (some t))
    (ht : t.hold = (c.wireBinding w).rebound net s) : c.TakesWire c' w net s (t.driver.map (·.1)) := by
  have hnet : t.hold.net = net := by rw [ht, Binding.rebound_net]
  have hentry (n : NetId) : c'.entry n w = t.entry n := by rw [h.entry, if_pos rfl, Option.bind_some]
  have hother (n : NetId) (hn : n ≠ net) : c'.entry n w = none := by
    rw [hentry, Tenure.entry, if_neg (hnet ▸ hn.symm)]
  constructor
  · exact h.unrouted
  · rw [h.wireBinding_self, Option.map_some, ht]
  · exact fun x hx => h.wireBinding_of_ne hx
  · rw [hentry, Tenure.entry, if_pos hnet, ht]
  · exact fun n _ hn => hother n hn
  · intro n x hfar
    by_cases hx : x = w
    · -- a net that neither takes nor loses the wire has no entry of it before or after
      obtain ⟨hn, hheld⟩ := hfar.resolve_left (fun hne => hne hx)
      rw [hx, hother n hn, hc.entry_eq_none hheld]
    · rw [h.entry, if_neg hx]

/-! ### Wires -/

theorem bindWire_of_admits (hadm : (c.wireBinding w).admits net s = true)
    (hnet : net < c.netlist.nets.size) : ∃ c', c.bindWire w net s = .ok (.ok c') := by
  have hfree := Binding.conflict?_eq_none_iff.2 hadm
  simp only [bindWire, hfree, Netlist.net, fetch_of_lt hnet, bind, Except.bind]
  exact ⟨_, rfl⟩

theorem bindWire_of_refused (hadm : (c.wireBinding w).admits net s = false) :
    ∃ e, c.bindWire w net s = .ok (.error e) := by
  cases hholder : (c.wireBinding w).conflict? net s with
  | none =>
    rw [Binding.conflict?_eq_none_iff, hadm] at hholder
    cases hholder
  | some holder => exact ⟨.wireConflict w holder, by simp only [bindWire, hholder]⟩

theorem bindWire_pips (hc : c.Coherent) (h : c.bindWire w net s = .ok (.ok c')) (p : PipId) :
    c'.pipBinding p =
      if c.driver w = some p ∧ c.wireNet w ≠ some net then none else c.pipBinding p := by
  obtain ⟨-, -, hchange⟩ := bindWire_change hc h
  rw [hchange.pip, Option.bind_some]
  by_cases hown : c.wireNet w = some net
  · have hkept : ¬ (c.driver w = some p ∧ c.wireNet w ≠ some net) := fun hlost => hlost.2 hown
    rw [if_neg hkept]
    have hself (n : NetId) (hn : c.wireNet w = some n) : n = net :=
      Option.some.inj (hn.symm.trans hown)
    exact (hc.pipBinding_of_own hself p).symm
  · have hnone : c.driverOf net w = none := by
      rw [driverOf, hc.drivingPip_eq_none hown, Option.bind_none]
    simp [Tenure.pipBinding, hnone, hown]

/-! ### Pips -/

/-- What holds a pip is released with the wire that the pip drives, so a request that both records
admit is always granted. -/
theorem bindPip_of_admits (hc : c.Coherent) (hbl : c.device.isBlacklisted p = .ok false)
    (hdst : c.device.pipDstWire p = .ok dst) (hpip : (c.pipBinding p).admits net s = true)
    (hwire : (c.wireBinding dst).admits net s = true) (hnet : net < c.netlist.nets.size) :
    ∃ c', c.bindPip p net s = .ok (.ok c') := by
  have hp := Binding.conflict?_eq_none_iff.2 hpip
  have hw := Binding.conflict?_eq_none_iff.2 hwire
  simp only [bindPip, hbl, hdst, hp, hw, Netlist.net, fetch_of_lt hnet, bind, Except.bind, pure,
    Except.pure, Bool.false_eq_true, if_false]
  by_cases ho : (c.pipBinding p).heldByOther net = true
  · obtain ⟨held, hheld, -⟩ := Binding.heldByOther_eq_true_iff.1 ho
    obtain ⟨_, -, -, -, hrelease⟩ := releasePip_eq hc hheld
    simp only [if_pos ho, hrelease]
    exact ⟨_, rfl⟩
  · simp only [if_neg ho]
    exact ⟨_, rfl⟩

theorem bindPip_of_refused {listed : Bool} (hbl : c.device.isBlacklisted p = .ok listed)
    (hdst : c.device.pipDstWire p = .ok dst)
    (h : ¬ (listed = false ∧ (c.pipBinding p).admits net s = true ∧
      (c.wireBinding dst).admits net s = true)) : ∃ e, c.bindPip p net s = .ok (.error e) := by
  simp only [bindPip, hbl, hdst, bind, Except.bind, pure, Except.pure]
  cases listed with
  | true => exact ⟨_, rfl⟩
  | false =>
    cases hp : (c.pipBinding p).conflict? net s with
    | some holder => exact ⟨_, rfl⟩
    | none =>
      cases hw : (c.wireBinding dst).conflict? net s with
      | some holder => exact ⟨_, rfl⟩
      | none =>
        exact absurd ⟨rfl, Binding.conflict?_eq_none_iff.1 hp, Binding.conflict?_eq_none_iff.1 hw⟩ h

theorem bindPip_pips (hc : c.Coherent) (hdst : c.device.pipDstWire p = .ok dst)
    (h : c.bindPip p net s = .ok (.ok c')) :
    (∀ s₀, c.pipBinding p = some ⟨net, s₀⟩ → c'.pipBinding p = some ⟨net, max s₀ s⟩) ∧
    (c.pipNet p ≠ some net → c'.pipBinding p = some ⟨net, s⟩) ∧
    ∀ q, q ≠ p → c'.pipBinding q = if c.driver dst = some q then none else c.pipBinding q := by
  obtain ⟨x, hx, -, -, -, -, hchange⟩ := bindPip_change hc h
  obtain rfl : x = dst := Except.ok.inj (hx.symm.trans hdst)
  have hself : c'.pipBinding p = some ((c.pipBinding p).rebound net s) := by
    rw [hchange.pip_driver rfl rfl]
    simp only [Binding.rebound_net, Option.some.injEq]
    exact ((Hold.eq_mk_iff _ net _).2 ⟨Binding.rebound_net, rfl⟩).symm
  refine ⟨?_, ?_, ?_⟩
  · intro s₀ hheld
    rw [hself, hheld, Binding.rebound_own]
  · intro hforeign
    rw [hself, Binding.rebound_of_other]
    rintro held hheld rfl
    exact hforeign (by rw [pipNet, hheld]; rfl)
  · intro q hq
    rw [hchange.pip]
    simp [Tenure.pipBinding, hq.symm]

end Context

open Context

/-- In every reachable context a net is given a wire exactly when the wire's record admits it, and a
pip exactly when the pip is not excluded and both its record and that of the wire it drives admit the
net; a refused request leaves the context as it was. The net takes that one wire. A wire bound on its
own keeps its driver unless it changes hands; a pip becomes the driver, and another pip that drove the
wire before is released. -/
theorem binding_takes_one_wire {d : Device} {c : Context} (h : Reachable d c) {net : NetId}
    (hnet : net < c.netlist.nets.size) (s : Strength) :
    (∀ w, ((∃ c', c.bindWire w net s = .ok (.ok c')) ↔ (c.wireBinding w).admits net s = true) ∧
      ((c.wireBinding w).admits net s = false →
        (∃ e, c.bindWire w net s = .ok (.error e)) ∧ (Act.bindWire w net s).perform c = .ok c) ∧
      ∀ c', c.bindWire w net s = .ok (.ok c') → c.TakesWire c' w net s (c.drivingPip net w) ∧
        ∀ p, c'.pipBinding p =
          if c.driver w = some p ∧ c.wireNet w ≠ some net then none else c.pipBinding p) ∧
    ∀ p, c.device.HasPip p → ∃ dst, c.device.pipDstWire p = .ok dst ∧
      let grants := c.device.isBlacklisted p = .ok false ∧ (c.pipBinding p).admits net s = true ∧
        (c.wireBinding dst).admits net s = true
      ((∃ c', c.bindPip p net s = .ok (.ok c')) ↔ grants) ∧
      (¬ grants →
        (∃ e, c.bindPip p net s = .ok (.error e)) ∧ (Act.bindPip p net s).perform c = .ok c) ∧
      ∀ c', c.bindPip p net s = .ok (.ok c') → c.TakesWire c' dst net s (some p) ∧
        (∀ s₀, c.pipBinding p = some ⟨net, s₀⟩ → c'.pipBinding p = some ⟨net, max s₀ s⟩) ∧
        (c.pipNet p ≠ some net → c'.pipBinding p = some ⟨net, s⟩) ∧
        ∀ q, q ≠ p → c'.pipBinding q = if c.driver dst = some q then none else c.pipBinding q := by
  have hc := h.coherent
  constructor
  · intro w
    refine ⟨⟨?_, fun hadm => bindWire_of_admits hadm hnet⟩, ?_, ?_⟩
    · rintro ⟨c', hc'⟩
      exact (bindWire_change hc hc').2.1
    · intro hrefused
      obtain ⟨e, he⟩ := bindWire_of_refused hrefused
      exact ⟨⟨e, he⟩, by simp only [Act.perform, he]; rfl⟩
    · intro c' hc'
      obtain ⟨-, -, hchange⟩ := bindWire_change hc hc'
      have htaken := hchange.takesWire (s := s) hc rfl
      rw [hc.map_driverOf] at htaken
      exact ⟨htaken, bindWire_pips hc hc'⟩
  · intro p hp
    obtain ⟨dst, hdst, -⟩ := Device.answers_pipDstWire hp
    obtain ⟨listed, hlisted, -⟩ := Device.answers_isBlacklisted hp
    refine ⟨dst, hdst, ⟨?_, ?_⟩, ?_, ?_⟩
    · rintro ⟨c', hc'⟩
      obtain ⟨x, hx, hbl, -, hpip, hwire, -⟩ := bindPip_change hc hc'
      obtain rfl : x = dst := Except.ok.inj (hx.symm.trans hdst)
      exact ⟨hbl, hpip, hwire⟩
    · rintro ⟨hbl, hpip, hwire⟩
      exact bindPip_of_admits hc hbl hdst hpip hwire hnet
    · intro hrefused
      have herror : ∃ e, c.bindPip p net s = .ok (.error e) :=
        bindPip_of_refused hlisted hdst fun hgrants => hrefused ⟨hgrants.1 ▸ hlisted, hgrants.2⟩
      obtain ⟨e, he⟩ := herror
      exact ⟨⟨e, he⟩, by simp only [Act.perform, he]; rfl⟩
    · intro c' hc'
      obtain ⟨x, hx, -, -, -, -, hchange⟩ := bindPip_change hc hc'
      obtain rfl : x = dst := Except.ok.inj (hx.symm.trans hdst)
      exact ⟨hchange.takesWire hc rfl, bindPip_pips hc hdst hc'⟩

/-- Net 1 takes wire 1 of the fork through the other pip, and net 0 loses both wire and pip. -/
theorem binding_takes_one_wire_fork : ∃ c c', Reachable fork c ∧ 1 < c.netlist.nets.size ∧
    c.pipBinding ⟨0, 0⟩ = some ⟨0, .weak⟩ ∧ c.bindPip ⟨0, 1⟩ 1 .strong = .ok (.ok c') ∧
    c'.pipBinding ⟨0, 1⟩ = some ⟨1, .strong⟩ ∧ c'.pipBinding ⟨0, 0⟩ = none ∧
    c'.entry 0 (.tile 0 1) = none := by
  have hrun : (do
      let c ← Act.performAll { device := fork }
        [.edit (.net "n"), .edit (.net "m"), .bindPip ⟨0, 0⟩ 0 .weak]
      return decide (1 < c.netlist.nets.size ∧ c.pipBinding ⟨0, 0⟩ = some ⟨0, .weak⟩ ∧
        c.driver (.tile 0 1) = some ⟨0, 0⟩ ∧ c.wireNet (.tile 0 1) = some 0 ∧
        c.pipNet ⟨0, 1⟩ ≠ some 1 ∧ c.device.pipDstWire ⟨0, 1⟩ = .ok (.tile 0 1) ∧
        c.device.isBlacklisted ⟨0, 1⟩ = .ok false ∧
        (c.pipBinding ⟨0, 1⟩).admits 1 .strong = true ∧
        (c.wireBinding (.tile 0 1)).admits 1 .strong = true ∧
        (c.device.tileType 0).toOption.any fun tt => 1 < tt.pips.size)) = Except.ok true := by
    decide +kernel
  obtain ⟨c, hc, hrun⟩ := bind_eq_ok_iff.1 hrun
  obtain ⟨hnet, hheld, hdriver, howner, hforeign, hdst, hbl, hpip, hwire, htype⟩ :=
    of_decide_eq_true (Except.ok.inj hrun)
  have hreach : Reachable fork c := Run.start.performAll (fun _ _ _ => trivial) hc
  have hhas : c.device.HasPip ⟨0, 1⟩ := by
    cases htt : c.device.tileType 0 with
    | error f => simp [htt, Except.toOption] at htype
    | ok tt => exact ⟨tt, htt, by simpa [htt, Except.toOption] using htype⟩
  obtain ⟨dst, hdst', hgrant, -, heffect⟩ := (binding_takes_one_wire hreach hnet .strong).2 ⟨0, 1⟩ hhas
  obtain rfl : dst = .tile 0 1 := Except.ok.inj (hdst'.symm.trans hdst)
  obtain ⟨c', hc'⟩ := hgrant.2 ⟨hbl, hpip, hwire⟩
  obtain ⟨htaken, -, htakes, hrest⟩ := heffect c' hc'
  refine ⟨c, c', hreach, hnet, hheld, hc', htakes hforeign, ?_, htaken.previous 0 howner (by decide)⟩
  rw [hrest ⟨0, 0⟩ (by decide), if_pos hdriver]

end Interconnect
