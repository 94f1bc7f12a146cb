import Interconnect.Context.Routing
import Mathlib.Tactic.Common
/-!
# One wire at a time

What a context says of a wire stands in three tables: the record of the wire, the record of the pip
that drives it, and the routing of the net that holds it. A change of one wire rewrites all three at
that wire and leaves the rest of the context as it was. Releasing a wire and entering one are changes
of this kind.
-/
namespace Interconnect

section Tables

variable {α β : Type} [Ord α] [Std.TransOrd α] [Std.LawfulEqOrd α] [DecidableEq α]

theorem getElem?_insert_ite (table : Std.ExtTreeMap α β) (k a : α) (b : β) :
    (table.insert k b)[a]? = if a = k then some b else table[a]? := by
  rw [Std.ExtTreeMap.getElem?_insert]
  by_cases h : a = k
  · simp [h]
  · simp [h, Ne.symm h]

theorem getElem?_erase_ite (table : Std.ExtTreeMap α β) (k a : α) :
    (table.erase k)[a]? = if a = k then none else table[a]? := by
  rw [Std.ExtTreeMap.getElem?_erase]
  by_cases h : a = k
  · simp [h]
  · simp [h, Ne.symm h]

end Tables

/-! ### Contexts without routing -/

def Net.unrouted (n : Net) : Net := { n with wires := ∅ }

def Netlist.unrouted (n : Netlist) : Netlist := { n with nets := n.nets.map Net.unrouted }

/-- The context with all routing taken away. -/
def Context.unrouted (c : Context) : Context :=
  { c with netlist := c.netlist.unrouted, wireHolds := ∅, pipHolds := ∅ }

theorem Netlist.unrouted_modifyNet (n : Netlist) (i : NetId) (change : Net → Net)
    (h : ∀ net, (change net).unrouted = net.unrouted) :
    (n.modifyNet i change).unrouted = n.unrouted := by
  have hnets : (n.nets.modify i change).map Net.unrouted = n.nets.map Net.unrouted := by
    apply Array.ext_getElem?
    intro j
    rw [Array.getElem?_map, Array.getElem?_map, Array.getElem?_modify]
    by_cases hij : i = j
    · cases n.nets[j]? <;> simp [hij, h]
    · simp [hij]
  simp only [Netlist.unrouted, Netlist.modifyNet, hnets]

namespace Context

variable {c c' c'' : Context} {w x : WireId} {p q : PipId} {net i : NetId}

theorem unrouted_reroute (c : Context) {wireHolds : Std.ExtTreeMap WireId Hold}
    {pipHolds : Std.ExtTreeMap PipId Hold} (net : NetId) {change : Net → Net}
    (h : ∀ n, (change n).unrouted = n.unrouted) :
    { c with wireHolds, pipHolds, netlist := c.netlist.modifyNet net change }.unrouted = c.unrouted := by
  simp only [unrouted]
  rw [Netlist.unrouted_modifyNet c.netlist net change h]

theorem device_of_unrouted (h : c'.unrouted = c.unrouted) : c'.device = c.device :=
  congrArg (·.device) h

theorem attrs_of_unrouted (h : c'.unrouted = c.unrouted) : c'.attrs = c.attrs :=
  congrArg (·.attrs) h

theorem netByName_of_unrouted (h : c'.unrouted = c.unrouted) :
    c'.netlist.netByName = c.netlist.netByName := by
  have hindex : c'.netlist.netIndex = c.netlist.netIndex := congrArg (·.netlist.netIndex) h
  funext name
  rw [Netlist.netByName, Netlist.netByName, hindex]

theorem getElem?_nets_of_unrouted (h : c'.unrouted = c.unrouted) (net : NetId) :
    (c'.netlist.nets[net]?).map Net.unrouted = (c.netlist.nets[net]?).map Net.unrouted := by
  have hnets : c'.netlist.nets.map Net.unrouted = c.netlist.nets.map Net.unrouted :=
    congrArg (·.netlist.nets) h
  rw [← Array.getElem?_map, ← Array.getElem?_map, hnets]

theorem size_nets_of_unrouted (h : c'.unrouted = c.unrouted) :
    c'.netlist.nets.size = c.netlist.nets.size := by
  have hsize : (c'.netlist.nets.map Net.unrouted).size = (c.netlist.nets.map Net.unrouted).size :=
    congrArg (·.netlist.nets.size) h
  rwa [Array.size_map, Array.size_map] at hsize

/-! ### What the tables say of a wire -/

def entry (c : Context) (net : NetId) (w : WireId) : Option RouteEntry :=
  (c.netlist.nets[net]?).bind (·.wires[w]?)

def driver (c : Context) (w : WireId) : Option PipId :=
  (c.wireBinding w).bind fun held => c.drivingPip held.net w

theorem drivingPip_eq (c : Context) (net : NetId) (w : WireId) :
    c.drivingPip net w = (c.entry net w).bind (·.pip) := by
  simp only [drivingPip, entry]
  cases c.netlist.nets[net]? <;> rfl

theorem entry_modifyNet (c : Context) (i : NetId) (change : Net → Net) (net : NetId) (w : WireId) :
    { c with netlist := c.netlist.modifyNet i change : Context }.entry net w =
      if i = net then (c.netlist.nets[net]?).bind fun n => (change n).wires[w]?
      else c.entry net w := by
  simp only [entry, Netlist.modifyNet, Array.getElem?_modify]
  by_cases hi : i = net
  · cases c.netlist.nets[net]? <;> simp [hi]
  · simp [hi]

theorem getElem?_erasePip (holds : Std.ExtTreeMap PipId Hold) (q : Option PipId) (p : PipId) :
    (erasePip holds q)[p]? = if q = some p then none else holds[p]? := by
  cases q with
  | none => simp [erasePip]
  | some q => simp [erasePip, getElem?_erase_ite, eq_comm]

end Context

/-! ### Changes -/

/-- All that is recorded of a wire that is held: its holder, and the pip that drives it with the
pip's own strength. -/
structure Tenure where
  hold : Hold
  driver : Option (PipId × Strength)

namespace Tenure

def entry (t : Tenure) (net : NetId) : Option RouteEntry :=
  if t.hold.net = net then some ⟨t.driver.map (·.1), t.hold.strength⟩ else none

/-- The record of a pip, if it is the one that drives the wire. -/
def pipBinding (t : Tenure) (p : PipId) : Binding :=
  t.driver.bind fun (q, s) => if q = p then some ⟨t.hold.net, s⟩ else none

end Tenure

/-- From one context to the other only a wire is held differently: as told, or not at all. The pip
that drove it before is released, unless it still drives it. -/
structure Context.Change (c c' : Context) (w : WireId) (t : Option Tenure) : Prop where
  unrouted : c'.unrouted = c.unrouted
  wire : ∀ x, c'.wireBinding x = if x = w then t.map (·.hold) else c.wireBinding x
  entry : ∀ net x, c'.entry net x = if x = w then t.bind (·.entry net) else c.entry net x
  pip : ∀ p, c'.pipBinding p =
    (t.bind (·.pipBinding p)).or (if c.driver w = some p then none else c.pipBinding p)

/-- The tables agree. A net's routing has a wire exactly when the wire's record names the net, with
the same strength; it names a pip as the driver exactly when the pip's record names the net; and the
pip leads to that wire, is not excluded, and is held no more strongly than the wire. -/
structure Context.Coherent (c : Context) : Prop where
  wire_iff : ∀ w net strength, c.wireBinding w = some ⟨net, strength⟩ ↔
    (c.entry net w).map (·.strength) = some strength
  pip_iff : ∀ p net, c.pipNet p = some net ↔ ∃ w, c.drivingPip net w = some p
  leads : ∀ net w p, c.drivingPip net w = some p → c.device.pipDstWire p = .ok w
  strength_le : ∀ p w held holder, c.pipBinding p = some held → c.device.pipDstWire p = .ok w →
    c.wireBinding w = some holder → held.strength ≤ holder.strength
  usable : ∀ p, c.pipBinding p ≠ none → c.device.isBlacklisted p = .ok false

namespace Context.Coherent

variable {c c' : Context} {w x : WireId} {p q : PipId} {net : NetId}

theorem entry_eq_none (hc : c.Coherent) (h : c.wireNet w ≠ some net) : c.entry net w = none := by
  cases he : c.entry net w with
  | none => rfl
  | some e =>
    have hw := (hc.wire_iff w net e.strength).2 (by rw [he]; rfl)
    exact absurd (by rw [wireNet, hw]; rfl) h

theorem drivingPip_eq_none (hc : c.Coherent) (h : c.wireNet w ≠ some net) :
    c.drivingPip net w = none := by
  rw [drivingPip_eq, hc.entry_eq_none h]
  rfl

theorem driver_eq_some_iff (hc : c.Coherent) :
    c.driver w = some p ↔ ∃ net, c.drivingPip net w = some p := by
  constructor
  · intro h
    obtain ⟨held, _, hd⟩ := Option.bind_eq_some_iff.1 h
    exact ⟨held.net, hd⟩
  · rintro ⟨net, hd⟩
    have hn : c.wireNet w = some net := by
      by_contra hne
      rw [hc.drivingPip_eq_none hne] at hd
      exact absurd hd (by simp)
    obtain ⟨held, hw, rfl⟩ := Option.map_eq_some_iff.1 hn
    rw [driver, hw]
    exact hd

theorem eq_of_leads (hc : c.Coherent) (hd : c.drivingPip net x = some p)
    (hp : c.device.pipDstWire p = .ok w) : x = w :=
  Except.ok.inj ((hc.leads net x p hd).symm.trans hp)

theorem driver_leads (hc : c.Coherent) (h : c.driver w = some p) :
    c.device.pipDstWire p = .ok w := by
  obtain ⟨net, hd⟩ := hc.driver_eq_some_iff.1 h
  exact hc.leads net w p hd

end Context.Coherent

theorem Hold.eq_mk_iff (h : Hold) (net : NetId) (s : Strength) :
    h = ⟨net, s⟩ ↔ h.net = net ∧ h.strength = s := by
  cases h
  simp

namespace Tenure

variable {t : Tenure} {p : PipId} {net : NetId}

theorem pipBinding_eq_some_iff {h : Hold} :
    t.pipBinding p = some h ↔ h.net = t.hold.net ∧ t.driver = some (p, h.strength) := by
  unfold Tenure.pipBinding
  cases t.driver with
  | none => simp
  | some d =>
    obtain ⟨q, s⟩ := d
    by_cases hq : q = p
    · cases h
      simp [hq, eq_comm]
    · simp [hq]

theorem entry_eq_some_iff {e : RouteEntry} :
    t.entry net = some e ↔ t.hold.net = net ∧ e = ⟨t.driver.map (·.1), t.hold.strength⟩ := by
  unfold Tenure.entry
  by_cases hn : t.hold.net = net <;> simp [hn, eq_comm]

/-- The pip that drives the wire leads to it, is not excluded, and is held no more strongly. -/
def Fits (t : Tenure) (d : Device) (w : WireId) : Prop :=
  ∀ q s, t.driver = some (q, s) →
    d.pipDstWire q = .ok w ∧ d.isBlacklisted q = .ok false ∧ s ≤ t.hold.strength

end Tenure

namespace Context

variable {c c' c'' : Context} {w x : WireId} {p q : PipId} {net : NetId} {t : Option Tenure}

namespace Change

theorem device_eq (h : c.Change c' w t) : c'.device = c.device :=
  device_of_unrouted h.unrouted

theorem drivingPip_self (h : c.Change c' w t) (hd : c'.drivingPip net w = some p) :
    ∃ t' s, t = some t' ∧ t'.hold.net = net ∧ t'.driver = some (p, s) := by
  rw [drivingPip_eq, h.entry, if_pos rfl] at hd
  obtain ⟨e, he, hp⟩ := Option.bind_eq_some_iff.1 hd
  obtain ⟨t', ht, hte⟩ := Option.bind_eq_some_iff.1 he
  obtain ⟨hn, rfl⟩ := Tenure.entry_eq_some_iff.1 hte
  obtain ⟨⟨q, s⟩, hds, rfl⟩ := Option.map_eq_some_iff.1 hp
  exact ⟨t', s, ht, hn, hds⟩

theorem drivingPip_of_ne (h : c.Change c' w t) (hx : x ≠ w) :
    c'.drivingPip net x = c.drivingPip net x := by
  rw [drivingPip_eq, drivingPip_eq, h.entry, if_neg hx]

theorem wireBinding_self (h : c.Change c' w t) : c'.wireBinding w = t.map (·.hold) := by
  rw [h.wire, if_pos rfl]

theorem wireBinding_of_ne (h : c.Change c' w t) (hx : x ≠ w) :
    c'.wireBinding x = c.wireBinding x := by
  rw [h.wire, if_neg hx]

theorem wireNet_new {t : Tenure} (h : c.Change c' w (some t)) : c'.wireNet w = some t.hold.net := by
  rw [wireNet, h.wireBinding_self]
  rfl

/-- A pip that is held after a change is the new driver, or was held before. -/
theorem pip_cases (h : c.Change c' w t) {held : Hold} (hp : c'.pipBinding p = some held) :
    (∃ t', t = some t' ∧ held.net = t'.hold.net ∧ t'.driver = some (p, held.strength)) ∨
      (c.driver w ≠ some p ∧ c.pipBinding p = some held) := by
  rw [h.pip, Option.or_eq_some_iff] at hp
  rcases hp with hp | ⟨-, hp⟩
  · obtain ⟨t', ht, hb⟩ := Option.bind_eq_some_iff.1 hp
    exact Or.inl ⟨t', ht, Tenure.pipBinding_eq_some_iff.1 hb⟩
  · by_cases hd : c.driver w = some p
    · simp [hd] at hp
    · exact Or.inr ⟨hd, by simpa [hd] using hp⟩

theorem pip_driver (h : c.Change c' w t) {t' : Tenure} {s : Strength} (ht : t = some t')
    (hd : t'.driver = some (p, s)) : c'.pipBinding p = some ⟨t'.hold.net, s⟩ := by
  have hb : t'.pipBinding p = some ⟨t'.hold.net, s⟩ := Tenure.pipBinding_eq_some_iff.2 ⟨rfl, hd⟩
  rw [h.pip, ht, Option.bind_some, hb, Option.some_or]

theorem pip_other (h : c.Change c' w t) (ht : ∀ t' s, t = some t' → t'.driver ≠ some (p, s))
    (hd : c.driver w ≠ some p) : c'.pipBinding p = c.pipBinding p := by
  have hn : t.bind (·.pipBinding p) = none := by
    cases hb : t.bind (·.pipBinding p) with
    | none => rfl
    | some held =>
      obtain ⟨t', ht', hb'⟩ := Option.bind_eq_some_iff.1 hb
      exact absurd (Tenure.pipBinding_eq_some_iff.1 hb').2 (ht t' held.strength ht')
  rw [h.pip, hn, Option.none_or, if_neg hd]

theorem trans (h : c.Change c' w none) (h' : c'.Change c'' w t) : c.Change c'' w t where
  unrouted := h'.unrouted.trans h.unrouted
  wire x := by
    rw [h'.wire, h.wire]
    by_cases hx : x = w <;> simp [hx]
  entry net x := by
    rw [h'.entry, h.entry]
    by_cases hx : x = w <;> simp [hx]
  pip p := by
    have hd : c'.driver w = none := by rw [driver, h.wireBinding_self]; rfl
    rw [h'.pip, hd, h.pip]
    simp

end Change

theorem Coherent.change (hc : c.Coherent) (h : c.Change c' w t)
    (ht : ∀ t', t = some t' → t'.Fits c.device w) : c'.Coherent where
  wire_iff x net s := by
    rw [h.wire, h.entry]
    by_cases hx : x = w
    · cases t with
      | none => simp [hx]
      | some t =>
        have hold_iff := Hold.eq_mk_iff t.hold net s
        by_cases hn : t.hold.net = net <;> simp [hx, Tenure.entry, hn, hold_iff]
    · simp only [hx, if_false]
      exact hc.wire_iff x net s
  pip_iff p net := by
    -- the pip is the new driver of the wire, or it drives another wire as before
    constructor
    · intro hp
      obtain ⟨held, hb, rfl⟩ := Option.map_eq_some_iff.1 hp
      rcases h.pip_cases hb with ⟨t', rfl, hn, hd⟩ | ⟨hne, hb⟩
      · refine ⟨w, ?_⟩
        rw [drivingPip_eq, h.entry, if_pos rfl]
        simp [Tenure.entry, hn, hd]
      · obtain ⟨x, hx⟩ := (hc.pip_iff p held.net).1 (by rw [pipNet, hb]; rfl)
        refine ⟨x, ?_⟩
        have hxw : x ≠ w := by
          rintro rfl
          exact hne (hc.driver_eq_some_iff.2 ⟨_, hx⟩)
        rw [h.drivingPip_of_ne hxw, hx]
    · rintro ⟨x, hx⟩
      by_cases hxw : x = w
      · subst x
        obtain ⟨t', s, ht', rfl, hd⟩ := h.drivingPip_self hx
        rw [pipNet, h.pip_driver ht' hd]
        rfl
      · rw [h.drivingPip_of_ne hxw] at hx
        have hlead := hc.leads net x p hx
        have hb : c'.pipBinding p = c.pipBinding p := by
          apply h.pip_other
          · intro t' s ht' hd
            have hw := (ht t' ht' p s hd).1
            exact hxw (Except.ok.inj (hlead.symm.trans hw))
          · intro hd
            exact hxw (Except.ok.inj (hlead.symm.trans (hc.driver_leads hd)))
        rw [pipNet, hb]
        exact (hc.pip_iff p net).2 ⟨x, hx⟩
  leads net x p hd := by
    rw [h.device_eq]
    by_cases hxw : x = w
    · subst x
      obtain ⟨t', s, ht', _, hd'⟩ := h.drivingPip_self hd
      exact (ht t' ht' p s hd').1
    · rw [h.drivingPip_of_ne hxw] at hd
      exact hc.leads net x p hd
  strength_le p x held holder hp hdst hw := by
    rw [h.device_eq] at hdst
    rcases h.pip_cases hp with ⟨t', ht', _, hd⟩ | ⟨hne, hp⟩
    · obtain ⟨hlead, _, hle⟩ := ht t' ht' p _ hd
      obtain rfl : x = w := Except.ok.inj (hdst.symm.trans hlead)
      rw [h.wireBinding_self, ht'] at hw
      obtain rfl : t'.hold = holder := by simpa using hw
      exact hle
    · by_cases hxw : x = w
      · subst x
        obtain ⟨y, hy⟩ := (hc.pip_iff p held.net).1 (by rw [pipNet, hp]; rfl)
        obtain rfl : y = w := hc.eq_of_leads hy hdst
        exact absurd (hc.driver_eq_some_iff.2 ⟨_, hy⟩) hne
      · rw [h.wireBinding_of_ne hxw] at hw
        exact hc.strength_le p x held holder hp hdst hw
  usable p hp := by
    rw [h.device_eq]
    obtain ⟨held, hb⟩ := Option.ne_none_iff_exists'.1 hp
    rcases h.pip_cases hb with ⟨t', ht', _, hd⟩ | ⟨_, hb⟩
    · exact (ht t' ht' p _ hd).2.1
    · exact hc.usable p (by simp [hb])

end Context
end Interconnect
