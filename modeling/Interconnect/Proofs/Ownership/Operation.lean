import Interconnect.Proofs.Ownership.Change
import Interconnect.Proofs.Ownership.Record
/-!
# Binding and releasing, wire by wire

Every accepted request changes one wire: a release leaves it free, and a claim leaves it with the
net that asked. So no request makes the tables disagree.
-/
namespace Interconnect

namespace Context

variable {c c' : Context} {w dst : WireId} {p q : PipId} {net : NetId} {s : Strength}

/-! ### Releasing -/

theorem releaseWire_change (hc : c.Coherent) (w : WireId) : c.Change (c.releaseWire w) w none := by
  cases hw : c.wireBinding w with
  | none =>
    have hr : c.releaseWire w = c := by simp [releaseWire, hw]
    rw [hr]
    have hd : c.driver w = none := by simp [driver, hw]
    refine ⟨rfl, ?_, ?_, ?_⟩
    · intro x
      by_cases hx : x = w <;> simp [hx, hw]
    · intro net x
      by_cases hx : x = w
      · subst x
        simpa using hc.entry_eq_none (by simp [wireNet, hw])
      · simp [hx]
    · intro p
      simp [hd]
  | some held =>
    have hr : c.releaseWire w = { c with
        wireHolds := c.wireHolds.erase w
        pipHolds := erasePip c.pipHolds (c.driver w)
        netlist := c.netlist.modifyNet held.net fun n => { n with wires := n.wires.erase w } } := by
      simp [releaseWire, driver, hw]
    rw [hr]
    refine ⟨?_, ?_, ?_, ?_⟩
    · exact unrouted_reroute c held.net fun _ => rfl
    · exact fun x => getElem?_erase_ite c.wireHolds w x
    · intro net x
      change { c with netlist := _ : Context }.entry net x = _
      rw [entry_modifyNet]
      by_cases hn : held.net = net
      · rw [if_pos hn, entry]
        by_cases hx : x = w <;> cases c.netlist.nets[net]? <;> simp [hx, getElem?_erase_ite]
      · rw [if_neg hn]
        by_cases hx : x = w
        · subst x
          rw [if_pos rfl]
          exact hc.entry_eq_none (by simp [wireNet, hw, hn])
        · rw [if_neg hx]
    · intro p
      exact getElem?_erasePip c.pipHolds (c.driver w) p

theorem releasePip_eq (hc : c.Coherent) {held : Hold} (hp : c.pipBinding p = some held) :
    ∃ dst, c.device.pipDstWire p = .ok dst ∧ c.driver dst = some p ∧
      c.wireNet dst = some held.net ∧ c.releasePip p = .ok (c.releaseWire dst) := by
  obtain ⟨dst, hd⟩ := (hc.pip_iff p held.net).1 (by rw [pipNet, hp]; rfl)
  have hdst := hc.leads held.net dst p hd
  have hdriver : c.driver dst = some p := hc.driver_eq_some_iff.2 ⟨_, hd⟩
  have hnet : c.wireNet dst = some held.net := by
    by_contra hne
    rw [hc.drivingPip_eq_none hne] at hd
    exact absurd hd (by simp)
  refine ⟨dst, hdst, hdriver, hnet, ?_⟩
  obtain ⟨holder, hw, hn⟩ := Option.map_eq_some_iff.1 hnet
  simp [releasePip, releaseWire, hp, hdst, hw, hn, hd, erasePip, bind, Except.bind, pure, Except.pure]

/-! ### Entering -/

theorem enter_change (hc : c.Coherent) (hw : ∀ n, c.wireNet w = some n → n = net)
    (hnet : net < c.netlist.nets.size) (t : Tenure) (ht : t.hold.net = net)
    {holds : Std.ExtTreeMap PipId Hold}
    (hp : ∀ p, holds[p]? =
      (t.pipBinding p).or (if c.driver w = some p then none else c.pipBinding p)) :
    c.Change { c with
      wireHolds := c.wireHolds.insert w t.hold
      pipHolds := holds
      netlist := c.netlist.modifyNet net fun n =>
        { n with wires := n.wires.insert w ⟨t.driver.map (·.1), t.hold.strength⟩ } } w (some t) where
  unrouted := unrouted_reroute c net fun _ => rfl
  wire x := getElem?_insert_ite c.wireHolds w x t.hold
  entry i x := by
    change { c with netlist := _ : Context }.entry i x = _
    rw [entry_modifyNet]
    by_cases hi : net = i
    · rw [if_pos hi, entry, Array.getElem?_eq_getElem (hi ▸ hnet)]
      by_cases hx : x = w <;> simp [hx, getElem?_insert_ite, Tenure.entry, ht, hi]
    · rw [if_neg hi]
      by_cases hx : x = w
      · subst x
        have he : c.entry i w = none := hc.entry_eq_none fun h => hi (hw i h).symm
        simp [he, Tenure.entry, ht, hi]
      · rw [if_neg hx]
  pip := hp

def driverOf (c : Context) (net : NetId) (w : WireId) : Option (PipId × Strength) :=
  (c.drivingPip net w).bind fun p => (c.pipBinding p).map fun held => (p, held.strength)

theorem Coherent.pipBinding_of_drivingPip (hc : c.Coherent) (h : c.drivingPip net w = some p) :
    ∃ s, c.pipBinding p = some ⟨net, s⟩ := by
  obtain ⟨held, hb, rfl⟩ := Option.map_eq_some_iff.1 ((hc.pip_iff p net).2 ⟨w, h⟩)
  exact ⟨held.strength, hb⟩

theorem Coherent.wireBinding_of_drivingPip (hc : c.Coherent) (h : c.drivingPip net w = some p) :
    ∃ sw, c.wireBinding w = some ⟨net, sw⟩ := by
  cases hb : c.wireNet w with
  | none =>
    rw [hc.drivingPip_eq_none (by simp [hb])] at h
    exact absurd h (by simp)
  | some n =>
    obtain ⟨holder, hw, rfl⟩ := Option.map_eq_some_iff.1 hb
    by_cases hn : holder.net = net
    · exact ⟨holder.strength, by rw [hw, ← hn]⟩
    · rw [hc.drivingPip_eq_none (by simp [hb, hn])] at h
      exact absurd h (by simp)

theorem Coherent.lt_size (hc : c.Coherent) (h : c.wireNet w = some net) :
    net < c.netlist.nets.size := by
  obtain ⟨⟨n, s⟩, hw, rfl⟩ := Option.map_eq_some_iff.1 h
  obtain ⟨e, he, -⟩ := Option.map_eq_some_iff.1 ((hc.wire_iff w n s).1 hw)
  obtain ⟨entry, hentry, -⟩ := Option.bind_eq_some_iff.1 he
  exact (Array.getElem?_eq_some_iff.1 hentry).1

theorem Coherent.driverOf_eq_some_iff (hc : c.Coherent) :
    c.driverOf net w = some (p, s) ↔
      c.drivingPip net w = some p ∧ c.pipBinding p = some ⟨net, s⟩ := by
  constructor
  · intro h
    obtain ⟨q, hd, hq⟩ := Option.bind_eq_some_iff.1 h
    obtain ⟨held, hb, he⟩ := Option.map_eq_some_iff.1 hq
    obtain ⟨rfl, rfl⟩ := Prod.mk.inj he
    obtain ⟨s', hb'⟩ := hc.pipBinding_of_drivingPip hd
    obtain rfl := Option.some.inj (hb.symm.trans hb')
    exact ⟨hd, hb⟩
  · rintro ⟨hd, hb⟩
    simp [driverOf, hd, hb]

theorem Coherent.driver_of_own (hc : c.Coherent) (hw : ∀ n, c.wireNet w = some n → n = net) :
    c.driver w = c.drivingPip net w := by
  cases hb : c.wireBinding w with
  | none =>
    rw [hc.drivingPip_eq_none (by simp [wireNet, hb]), driver, hb]
    rfl
  | some held =>
    rw [driver, hb, ← hw held.net (by simp [wireNet, hb])]
    rfl

theorem Change.driverOf_released (h : c.Change c' w none) : c'.driverOf net w = none := by
  rw [driverOf, drivingPip_eq, h.entry, if_pos rfl]
  rfl

theorem Coherent.map_driverOf (hc : c.Coherent) :
    (c.driverOf net w).map (·.1) = c.drivingPip net w := by
  cases hd : c.drivingPip net w with
  | none => simp [driverOf, hd]
  | some q =>
    obtain ⟨sq, hq⟩ := hc.pipBinding_of_drivingPip hd
    simp [driverOf, hd, hq]

/-- With a wire that is free or held by the net no pip changes hands. -/
theorem Coherent.pipBinding_of_own (hc : c.Coherent) (hw : ∀ n, c.wireNet w = some n → n = net)
    (p : PipId) : c.pipBinding p =
      (Tenure.pipBinding ⟨(c.wireBinding w).rebound net s, c.driverOf net w⟩ p).or
        (if c.driver w = some p then none else c.pipBinding p) := by
  rw [hc.driver_of_own hw]
  cases hd : c.drivingPip net w with
  | none => simp [Tenure.pipBinding, driverOf, hd]
  | some q =>
    obtain ⟨sq, hq⟩ := hc.pipBinding_of_drivingPip hd
    by_cases hqp : q = p
    · subst p
      simp [Tenure.pipBinding, driverOf, hd, hq, Binding.rebound_net]
    · simp [Tenure.pipBinding, driverOf, hd, hq, hqp]

theorem claimWire_change (hc : c.Coherent) (hw : ∀ n, c.wireNet w = some n → n = net)
    (hnet : net < c.netlist.nets.size) :
    c.Change (c.claimWire w net s (c.drivingPip net w)) w
      (some ⟨(c.wireBinding w).rebound net s, c.driverOf net w⟩) := by
  have hchange := enter_change hc hw hnet
    ⟨(c.wireBinding w).rebound net s, c.driverOf net w⟩ Binding.rebound_net (hc.pipBinding_of_own hw)
  rw [hc.map_driverOf] at hchange
  exact hchange

theorem evict_change (hc : c.Coherent) (w : WireId) (net : NetId) :
    let c₁ := if (c.wireBinding w).heldByOther net then c.releaseWire w else c
    c₁.Coherent ∧ (∀ n, c₁.wireNet w = some n → n = net) ∧
      (c₁ = c ∧ (c.wireBinding w).heldByOther net = false ∨
        c.Change c₁ w none ∧ (c.wireBinding w).heldByOther net = true) := by
  intro c₁
  by_cases ho : (c.wireBinding w).heldByOther net = true
  · have hch : c.Change c₁ w none := by
      simp only [c₁, if_pos ho]
      exact releaseWire_change hc w
    refine ⟨hc.change hch (by simp), ?_, Or.inr ⟨hch, ho⟩⟩
    intro n hn
    simp [wireNet, hch.wireBinding_self] at hn
  · have hc₁ : c₁ = c := if_neg ho
    rw [hc₁]
    refine ⟨hc, ?_, Or.inl ⟨rfl, by simpa using ho⟩⟩
    intro n hn
    obtain ⟨held, hb, rfl⟩ := Option.map_eq_some_iff.1 hn
    by_contra hne
    exact ho (Binding.heldByOther_eq_true_iff.2 ⟨held, hb, hne⟩)

theorem bindWire_change (hc : c.Coherent) (h : c.bindWire w net s = .ok (.ok c')) :
    net < c.netlist.nets.size ∧ (c.wireBinding w).admits net s = true ∧
      c.Change c' w (some ⟨(c.wireBinding w).rebound net s, c.driverOf net w⟩) := by
  cases hconf : (c.wireBinding w).conflict? net s with
  | some holder => simp [bindWire, hconf] at h
  | none =>
    have hadm := Binding.conflict?_eq_none_iff.1 hconf
    cases hn : c.netlist.net net with
    | error f => simp [bindWire, hconf, hn, bind, Except.bind] at h
    | ok n =>
      have hnet : net < c.netlist.nets.size := lt_size_of_fetch hn
      simp only [bindWire, hconf, hn, bind, Except.bind, pure, Except.pure, Except.ok.injEq] at h
      refine ⟨hnet, hadm, ?_⟩
      obtain ⟨hc₁, hown, ⟨he, ho⟩ | ⟨hch, ho⟩⟩ := evict_change hc w net
      · rw [he] at hc₁ hown h
        subst c'
        exact claimWire_change hc₁ hown hnet
      · have hclaim := claimWire_change (s := s) hc₁ hown (size_nets_of_unrouted hch.unrouted ▸ hnet)
        rw [h, hch.wireBinding_self, hch.driverOf_released] at hclaim
        obtain ⟨held, hb, hne⟩ := Binding.heldByOther_eq_true_iff.1 ho
        have hold : (c.wireBinding w).rebound net s = ⟨net, s⟩ :=
          Binding.rebound_of_other fun held' hb' => by
            obtain rfl : held = held' := Option.some.inj (hb.symm.trans hb')
            exact hne
        have hnone : c.driverOf net w = none := by
          rw [driverOf, hc.drivingPip_eq_none (by simp [wireNet, hb, hne])]
          rfl
        rw [hold, hnone]
        exact hch.trans hclaim

/-- A pip that is free or held by the net, bound with the wire that it drives, which is free or held
by the net too. -/
theorem seatPip_change (hc : c.Coherent) (hw : ∀ n, c.wireNet dst = some n → n = net)
    (hnet : net < c.netlist.nets.size) {hold : Hold} (hp : hold.net = net) :
    Context.Change c
      ({ c with
        pipHolds := (erasePip c.pipHolds ((c.drivingPip net dst).filter (· ≠ p))).insert p hold
        : Context }.claimWire dst net s (some p)) dst
      (some ⟨(c.wireBinding dst).rebound net s, some (p, hold.strength)⟩) := by
  refine enter_change hc hw hnet
    ⟨(c.wireBinding dst).rebound net s, some (p, hold.strength)⟩ Binding.rebound_net ?_
  intro q
  rw [getElem?_insert_ite, getElem?_erasePip, hc.driver_of_own hw]
  by_cases hq : q = p
  · subst q
    cases hold
    simp_all [Tenure.pipBinding, Binding.rebound_net]
  · have hd : (c.drivingPip net dst).filter (· ≠ p) = some q ↔ c.drivingPip net dst = some q := by
      simp [Option.filter_eq_some_iff, hq]
    simp [Tenure.pipBinding, hq, Ne.symm hq]
    rfl

theorem evictPip_eq {c₁ : Context} (hc : c.Coherent) (hdst : c.device.pipDstWire p = .ok dst)
    (h : (if (c.pipBinding p).heldByOther net then c.releasePip p else pure c) = .ok c₁) :
    (if (c₁.wireBinding dst).heldByOther net then c₁.releaseWire dst else c₁) =
      if (c.wireBinding dst).heldByOther net then c.releaseWire dst else c := by
  by_cases ho : (c.pipBinding p).heldByOther net = true
  · -- the release of the pip frees the wire, so nothing is left to release
    obtain ⟨held, hb, hne⟩ := Binding.heldByOther_eq_true_iff.1 ho
    obtain ⟨dst', hdst', _, hnet, hr⟩ := releasePip_eq hc hb
    obtain rfl : dst' = dst := Except.ok.inj (hdst'.symm.trans hdst)
    rw [if_pos ho, hr] at h
    obtain rfl : c.releaseWire dst' = c₁ := Except.ok.inj h
    obtain ⟨holder, hw, hn⟩ := Option.map_eq_some_iff.1 hnet
    have hwo : (c.wireBinding dst').heldByOther net = true :=
      Binding.heldByOther_eq_true_iff.2 ⟨holder, hw, hn ▸ hne⟩
    have hfree : (c.releaseWire dst').wireBinding dst' = none :=
      (releaseWire_change hc dst').wireBinding_self
    rw [if_pos hwo, hfree]
    rfl
  · rw [if_neg ho] at h
    obtain rfl : c = c₁ := Except.ok.inj h
    rfl

/-- What a pip's record becomes under a net does not depend on the eviction of the pip. -/
theorem Change.rebound_evicted (hc : c.Coherent) (h : c.Change c' dst none)
    (ho : (c.wireBinding dst).heldByOther net = true) :
    (c'.pipBinding p).rebound net s = (c.pipBinding p).rebound net s := by
  by_cases hd : c.driver dst = some p
  · have hp : c'.pipBinding p = none := by rw [h.pip, if_pos hd]; rfl
    obtain ⟨holder, hw, hne⟩ := Binding.heldByOther_eq_true_iff.1 ho
    have hdrive : c.drivingPip holder.net dst = some p := by simpa [driver, hw] using hd
    obtain ⟨sp, hb⟩ := hc.pipBinding_of_drivingPip hdrive
    rw [hp, hb, Binding.rebound_of_other (by simp), Binding.rebound_of_other (by simpa using hne)]
  · have hp : c'.pipBinding p = c.pipBinding p := by rw [h.pip, if_neg hd]; rfl
    rw [hp]

theorem bindPip_eq (h : c.bindPip p net s = .ok (.ok c')) :
    ∃ dst c₁, c.device.pipDstWire p = .ok dst ∧ c.device.isBlacklisted p = .ok false ∧
      net < c.netlist.nets.size ∧ (c.pipBinding p).admits net s = true ∧
      (c.wireBinding dst).admits net s = true ∧
      (if (c.pipBinding p).heldByOther net then c.releasePip p else pure c) = .ok c₁ ∧
      ∃ c₂, c₂ = (if (c₁.wireBinding dst).heldByOther net then c₁.releaseWire dst else c₁) ∧
        c' = ({ c₂ with
          pipHolds := (erasePip c₂.pipHolds ((c₂.drivingPip net dst).filter (· ≠ p))).insert p
            ((c₂.pipBinding p).rebound net s) : Context }.claimWire dst net s (some p)) := by
  obtain ⟨excluded, hbl, h⟩ := bind_eq_ok_iff.1 h
  cases excluded with
  | true => simp [pure, Except.pure] at h
  | false =>
  obtain ⟨dst, hdst, h⟩ := bind_eq_ok_iff.1 h
  cases hpc : (c.pipBinding p).conflict? net s with
  | some holder => simp [hpc, pure, Except.pure] at h
  | none =>
  cases hwc : (c.wireBinding dst).conflict? net s with
  | some holder => simp [hpc, hwc, pure, Except.pure] at h
  | none =>
  simp only [hpc, hwc] at h
  obtain ⟨n, hn, h⟩ := bind_eq_ok_iff.1 h
  have hnet : net < c.netlist.nets.size := lt_size_of_fetch hn
  have hrelease : ∃ c₁,
      (if (c.pipBinding p).heldByOther net then c.releasePip p else pure c) = .ok c₁ ∧
      ∃ c₂, c₂ = (if (c₁.wireBinding dst).heldByOther net then c₁.releaseWire dst else c₁) ∧
        c' = ({ c₂ with
          pipHolds := (erasePip c₂.pipHolds ((c₂.drivingPip net dst).filter (· ≠ p))).insert p
            (Binding.rebound
              (erasePip c₂.pipHolds ((c₂.drivingPip net dst).filter (· ≠ p)))[p]? net s)
            : Context }.claimWire dst net s (some p)) := by
    by_cases ho : (c.pipBinding p).heldByOther net = true
    · simp only [if_pos ho] at h ⊢
      obtain ⟨c₁, hc₁, h⟩ := bind_eq_ok_iff.1 h
      exact ⟨c₁, hc₁, _, rfl, (Except.ok.inj (Except.ok.inj h)).symm⟩
    · simp only [if_neg ho] at h ⊢
      exact ⟨c, rfl, _, rfl, (Except.ok.inj (Except.ok.inj h)).symm⟩
  obtain ⟨c₁, hc₁, c₂, hc₂, h⟩ := hrelease
  refine ⟨dst, c₁, hdst, hbl, hnet, Binding.conflict?_eq_none_iff.1 hpc,
    Binding.conflict?_eq_none_iff.1 hwc, hc₁, c₂, hc₂, ?_⟩
  have hp : (erasePip c₂.pipHolds ((c₂.drivingPip net dst).filter (· ≠ p)))[p]? =
      c₂.pipBinding p := by
    rw [getElem?_erasePip, if_neg (by simp [Option.filter_eq_some_iff])]
    rfl
  rw [hp] at h
  exact h

theorem bindPip_of_free (hbl : c.device.isBlacklisted p = .ok false)
    (hdst : c.device.pipDstWire p = .ok dst) (hfree : c.pipBinding p = none)
    (hadm : (c.wireBinding dst).admits net s = true) (hnet : net < c.netlist.nets.size) :
    ∃ c', c.bindPip p net s = .ok (.ok c') := by
  have hpip : Binding.conflict? none net s = none := rfl
  have hown : Binding.heldByOther none net = false := rfl
  have hwire := Binding.conflict?_eq_none_iff.2 hadm
  simp only [bindPip, hbl, hdst, hfree, hpip, hwire, Netlist.net, fetch_of_lt hnet, hown, bind,
    Except.bind, pure, Except.pure, Bool.false_eq_true, if_false, Except.ok.injEq, exists_eq']

theorem bindPip_change (hc : c.Coherent) (h : c.bindPip p net s = .ok (.ok c')) :
    ∃ dst, c.device.pipDstWire p = .ok dst ∧ c.device.isBlacklisted p = .ok false ∧
      net < c.netlist.nets.size ∧ (c.pipBinding p).admits net s = true ∧
      (c.wireBinding dst).admits net s = true ∧
      c.Change c' dst (some ⟨(c.wireBinding dst).rebound net s,
        some (p, ((c.pipBinding p).rebound net s).strength)⟩) := by
  obtain ⟨dst, c₁, hdst, hbl, hnet, hpa, hwa, hc₁, c₂, hc₂, rfl⟩ := bindPip_eq h
  refine ⟨dst, hdst, hbl, hnet, hpa, hwa, ?_⟩
  rw [evictPip_eq hc hdst hc₁] at hc₂
  obtain ⟨hcoh, hown, ⟨he, ho⟩ | ⟨hch, ho⟩⟩ := evict_change hc dst net
  · rw [← hc₂] at he
    subst c₂
    rw [he] at hcoh hown ⊢
    exact seatPip_change hcoh hown hnet Binding.rebound_net
  · -- the release and the claim are two changes of one wire
    rw [← hc₂] at hcoh hown hch
    have hseat := seatPip_change (p := p) (s := s) hcoh hown (size_nets_of_unrouted hch.unrouted ▸ hnet)
      (Binding.rebound_net (b := c₂.pipBinding p) (s := s))
    obtain ⟨holder, hb, hne⟩ := Binding.heldByOther_eq_true_iff.1 ho
    rw [hch.wireBinding_self] at hseat
    rw [Binding.rebound_of_other (b := c.wireBinding dst) (by simpa [hb] using hne),
      ← hch.rebound_evicted hc ho]
    exact hch.trans hseat

/-! ### Requests to release -/

theorem unbindWire_change {force : Bool} (hc : c.Coherent)
    (h : c.unbindWire w force = .ok (.ok c')) :
    ∃ held, c.wireBinding w = some held ∧ (held.strength = .locked → force = true) ∧
      c.Change c' w none := by
  cases hw : c.wireBinding w with
  | none =>
    simp only [unbindWire, hw] at h
    obtain ⟨name, _, h⟩ := bind_eq_ok_iff.1 h
    simp [pure, Except.pure] at h
  | some held =>
    simp only [unbindWire, hw] at h
    by_cases hl : held.strength = .locked ∧ !force
    · rw [if_pos hl] at h
      obtain ⟨name, _, h⟩ := bind_eq_ok_iff.1 h
      simp [pure, Except.pure] at h
    · rw [if_neg hl] at h
      obtain rfl : c.releaseWire w = c' := Except.ok.inj (Except.ok.inj h)
      exact ⟨held, rfl, by simpa using hl, releaseWire_change hc w⟩

theorem unbindPip_change {force : Bool} (hc : c.Coherent)
    (h : c.unbindPip p force = .ok (.ok c')) :
    ∃ held dst, c.pipBinding p = some held ∧ (held.strength = .locked → force = true) ∧
      c.device.pipDstWire p = .ok dst ∧ c.driver dst = some p ∧ c.Change c' dst none := by
  cases hp : c.pipBinding p with
  | none =>
    simp only [unbindPip, hp] at h
    obtain ⟨name, _, h⟩ := bind_eq_ok_iff.1 h
    simp [pure, Except.pure] at h
  | some held =>
    simp only [unbindPip, hp] at h
    by_cases hl : held.strength = .locked ∧ !force
    · rw [if_pos hl] at h
      obtain ⟨name, _, h⟩ := bind_eq_ok_iff.1 h
      simp [pure, Except.pure] at h
    · rw [if_neg hl] at h
      obtain ⟨c₁, hr, h⟩ := bind_eq_ok_iff.1 h
      obtain rfl : c₁ = c' := Except.ok.inj (Except.ok.inj h)
      obtain ⟨dst, hdst, hdriver, _, hrelease⟩ := releasePip_eq hc hp
      obtain rfl : c.releaseWire dst = c₁ := Except.ok.inj (hrelease.symm.trans hr)
      exact ⟨held, dst, rfl, by simpa using hl, hdst, hdriver, releaseWire_change hc dst⟩

/-! ### The tables keep agreeing -/

theorem Coherent.bindWire (hc : c.Coherent) (h : c.bindWire w net s = .ok (.ok c')) :
    c'.Coherent := by
  obtain ⟨_, _, hchange⟩ := bindWire_change hc h
  refine hc.change hchange ?_
  rintro t ht q sq hq
  obtain rfl := Option.some.inj ht
  obtain ⟨hdrive, hb⟩ := hc.driverOf_eq_some_iff.1 hq
  have hleads := hc.leads net w q hdrive
  obtain ⟨sw, hw⟩ := hc.wireBinding_of_drivingPip hdrive
  have hle : sq ≤ sw := hc.strength_le q w _ _ hb hleads hw
  exact ⟨hleads, hc.usable q (by simp [hb]), Strength.le_trans hle (Binding.le_rebound_own hw)⟩

theorem Coherent.bindPip (hc : c.Coherent) (h : c.bindPip p net s = .ok (.ok c')) :
    c'.Coherent := by
  obtain ⟨dst, hdst, hbl, _, _, _, hchange⟩ := bindPip_change hc h
  refine hc.change hchange ?_
  rintro t ht q sq hq
  obtain rfl := Option.some.inj ht
  obtain ⟨rfl, rfl⟩ : p = q ∧ _ = sq := by simpa using hq
  refine ⟨hdst, hbl, Binding.rebound_le_rebound ?_⟩
  intro s₀ hb
  obtain ⟨x, hdrive⟩ := (hc.pip_iff p net).1 (by rw [pipNet, hb]; rfl)
  obtain rfl : x = dst := hc.eq_of_leads hdrive hdst
  obtain ⟨sw, hw⟩ := hc.wireBinding_of_drivingPip hdrive
  exact ⟨sw, hw, hc.strength_le p x _ _ hb hdst hw⟩

theorem Coherent.unbindWire {force : Bool} (hc : c.Coherent)
    (h : c.unbindWire w force = .ok (.ok c')) : c'.Coherent := by
  obtain ⟨_, _, _, hchange⟩ := unbindWire_change hc h
  exact hc.change hchange (by simp)

theorem Coherent.unbindPip {force : Bool} (hc : c.Coherent)
    (h : c.unbindPip p force = .ok (.ok c')) : c'.Coherent := by
  obtain ⟨_, _, _, _, _, _, hchange⟩ := unbindPip_change hc h
  exact hc.change hchange (by simp)

/-! ### What binding leaves alone

Whatever the tables of a context say, a request changes the routing of the context and nothing else. -/

theorem unrouted_releaseWire (c : Context) (w : WireId) : (c.releaseWire w).unrouted = c.unrouted := by
  unfold releaseWire
  split
  · rfl
  · exact unrouted_reroute c _ fun _ => rfl

theorem unrouted_claimWire (c : Context) (w : WireId) (net : NetId) (s : Strength) (pip : Option PipId) :
    (c.claimWire w net s pip).unrouted = c.unrouted :=
  unrouted_reroute c net fun _ => rfl

theorem unrouted_of_releasePip (h : c.releasePip p = .ok c') : c'.unrouted = c.unrouted := by
  unfold releasePip at h
  split at h
  · obtain rfl := Except.ok.inj h
    rfl
  · obtain ⟨dst, -, h⟩ := bind_eq_ok_iff.1 h
    split at h
    · obtain rfl := Except.ok.inj h
      exact unrouted_reroute c _ fun _ => rfl
    · obtain rfl := Except.ok.inj h
      rfl

theorem unrouted_evict (c : Context) (w : WireId) (net : NetId) :
    (if (c.wireBinding w).heldByOther net then c.releaseWire w else c).unrouted = c.unrouted := by
  split
  · exact unrouted_releaseWire c w
  · rfl

theorem unrouted_of_bindWire (h : c.bindWire w net s = .ok (.ok c')) : c'.unrouted = c.unrouted := by
  unfold bindWire at h
  split at h
  · cases Except.ok.inj h
  · obtain ⟨n, -, h⟩ := bind_eq_ok_iff.1 h
    obtain rfl := Except.ok.inj (Except.ok.inj h)
    exact (unrouted_claimWire ..).trans (unrouted_evict c w net)

theorem unrouted_of_bindPip (h : c.bindPip p net s = .ok (.ok c')) : c'.unrouted = c.unrouted := by
  obtain ⟨dst, c₁, -, -, -, -, -, hc₁, c₂, rfl, rfl⟩ := bindPip_eq h
  have h₁ : c₁.unrouted = c.unrouted := by
    split at hc₁
    · exact unrouted_of_releasePip hc₁
    · obtain rfl := Except.ok.inj hc₁
      rfl
  exact ((unrouted_claimWire ..).trans (unrouted_evict c₁ dst net)).trans h₁

end Context
end Interconnect
