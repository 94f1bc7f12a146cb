import Interconnect.Proofs.Ownership.Run
/-!
# Locked wires and pips

Without force a locked wire or pip goes to no other net, and a request to release it is refused. Two
requests about another resource take it away all the same, without a look at its strength. Releasing a
pip that is not locked releases the wire that it drives, and the net that holds a pip drops it by
binding another pip to the same wire.
-/
namespace Interconnect

namespace Context

variable {c c' : Context} {w x : WireId} {p q : PipId} {net other : NetId} {s : Strength}

/-! ### Locked wires -/

theorem Change.locked {t : Tenure} (h : c.Change c' x (some t))
    (hold : t.hold = (c.wireBinding x).rebound other s)
    (hadm : (c.wireBinding x).admits other s = true)
    (hw : c.wireBinding w = some ⟨net, .locked⟩) : c'.wireBinding w = some ⟨net, .locked⟩ := by
  by_cases hx : w = x
  · subst x
    rw [hw] at hadm hold
    obtain rfl := Binding.admits_locked hadm
    rw [h.wireBinding_self, Option.map_some, hold, Binding.rebound_locked]
  · rw [h.wireBinding_of_ne hx, hw]

theorem Coherent.bindWire_locked (hc : c.Coherent) (hw : c.wireBinding w = some ⟨net, .locked⟩)
    (h : c.bindWire x other s = .ok (.ok c')) : c'.wireBinding w = some ⟨net, .locked⟩ := by
  obtain ⟨_, hadm, hchange⟩ := bindWire_change hc h
  exact hchange.locked rfl hadm hw

theorem Coherent.bindPip_locked (hc : c.Coherent) (hw : c.wireBinding w = some ⟨net, .locked⟩)
    (h : c.bindPip q other s = .ok (.ok c')) : c'.wireBinding w = some ⟨net, .locked⟩ := by
  obtain ⟨x, _, _, _, _, hadm, hchange⟩ := bindPip_change hc h
  exact hchange.locked rfl hadm hw

theorem Coherent.unbindWire_locked (hc : c.Coherent) (hw : c.wireBinding w = some ⟨net, .locked⟩)
    (h : c.unbindWire x false = .ok (.ok c')) : c'.wireBinding w = some ⟨net, .locked⟩ := by
  obtain ⟨held, hheld, hforce, hchange⟩ := unbindWire_change hc h
  have hx : w ≠ x := by
    rintro rfl
    obtain rfl := Option.some.inj (hw.symm.trans hheld)
    exact absurd (hforce rfl) (by decide)
  rw [hchange.wireBinding_of_ne hx, hw]

theorem Coherent.unbindPip_locked (hc : c.Coherent) (hw : c.wireBinding w = some ⟨net, .locked⟩)
    (hp : c.driver w = some p → ∃ held, c.pipBinding p = some held ∧ held.strength = .locked)
    (h : c.unbindPip p false = .ok (.ok c')) : c'.wireBinding w = some ⟨net, .locked⟩ := by
  obtain ⟨held, x, hheld, hforce, _, hdriver, hchange⟩ := unbindPip_change hc h
  have hx : w ≠ x := by
    rintro rfl
    obtain ⟨held', hheld', hlocked⟩ := hp hdriver
    obtain rfl := Option.some.inj (hheld.symm.trans hheld')
    exact absurd (hforce hlocked) (by decide)
  rw [hchange.wireBinding_of_ne hx, hw]

theorem Coherent.unbindPip_frees (force : Bool) (hc : c.Coherent) (hd : c.driver w = some p)
    (hp : ∀ held, c.pipBinding p = some held → held.strength ≠ .locked) :
    ∃ c', c.unbindPip p force = .ok (.ok c') ∧ c'.wireBinding w = none := by
  obtain ⟨net, hdrive⟩ := hc.driver_eq_some_iff.1 hd
  obtain ⟨s, hheld⟩ := hc.pipBinding_of_drivingPip hdrive
  obtain ⟨dst, hdst, -, -, hrelease⟩ := releasePip_eq hc hheld
  obtain rfl : w = dst := hc.eq_of_leads hdrive hdst
  refine ⟨c.releaseWire w, ?_, (releaseWire_change hc w).wireBinding_self⟩
  have hunlocked : s ≠ .locked := hp _ hheld
  simp [Context.unbindPip, hheld, hunlocked, hrelease, bind, Except.bind, pure, Except.pure]

theorem Coherent.route_locked (hc : c.Coherent) (hw : c.wireBinding w = some ⟨net, .locked⟩)
    {pass : Pass} {log : Log} {o : PassOutcome} (h : c.routePass log pass = .ok o) :
    o.ctx.wireBinding w = some ⟨net, .locked⟩ := by
  have hk : pass.Keeps c fun _ _ c' _ _ => c'.wireBinding w = some ⟨net, .locked⟩ := by
    refine ⟨id, ?_, ?_, ?_⟩
    · intro _ _ _ _ _ _ _ _ _ hc' _ hw' _ h
      exact hc'.bindWire_locked hw' h
    · intro _ _ _ _ _ _ _ _ _ hc' _ hw' _ h
      exact hc'.bindPip_locked hw' h
    · intro _ _ _ _ _ _ _ _ _ _ _ hw' _ _
      exact hw'
  obtain ⟨_, _, _, _, _, _, _, hleft⟩ := routePass_keeps hk hc hw h
  exact hleft

/-! ### Locked pips -/

theorem Coherent.locked_pip (hc : c.Coherent) (hp : c.pipBinding p = some ⟨net, .locked⟩) :
    ∃ w, c.device.pipDstWire p = .ok w ∧ c.drivingPip net w = some p ∧
      c.wireBinding w = some ⟨net, .locked⟩ ∧ ∀ x, c.driver x = some p → x = w := by
  obtain ⟨w, hw⟩ := (hc.pip_iff p net).1 (by rw [pipNet, hp]; rfl)
  obtain ⟨s, hs⟩ := hc.wireBinding_of_drivingPip hw
  have hdst := hc.leads net w p hw
  obtain rfl : s = .locked := Strength.eq_locked_of_le (hc.strength_le p w _ _ hp hdst hs)
  refine ⟨w, hdst, hw, hs, fun x hx => ?_⟩
  exact Except.ok.inj ((hc.driver_leads hx).symm.trans hdst)

theorem Coherent.bindWire_locked_pip (hc : c.Coherent)
    (hp : c.pipBinding p = some ⟨net, .locked⟩) (h : c.bindWire x other s = .ok (.ok c')) :
    c'.pipBinding p = some ⟨net, .locked⟩ := by
  obtain ⟨w, hdst, hdrive, hw, hunique⟩ := hc.locked_pip hp
  obtain ⟨_, hadm, hchange⟩ := bindWire_change hc h
  by_cases hx : x = w
  · subst x
    rw [hw] at hadm
    obtain rfl := Binding.admits_locked hadm
    have hd : c.driverOf other w = some (p, .locked) := hc.driverOf_eq_some_iff.2 ⟨hdrive, hp⟩
    rw [hchange.pip_driver rfl hd, Binding.rebound_net]
  · rw [hchange.pip_other ?_ fun hd => hx (hunique x hd), hp]
    intro t sp ht hd
    obtain rfl := Option.some.inj ht
    exact hx (hc.eq_of_leads (hc.driverOf_eq_some_iff.1 hd).1 hdst)

theorem Coherent.bindPip_locked_pip (hc : c.Coherent)
    (hp : c.pipBinding p = some ⟨net, .locked⟩) (h : c.bindPip q other s = .ok (.ok c'))
    (hq : other = net → q ≠ p → c.device.pipDstWire q ≠ c.device.pipDstWire p) :
    c'.pipBinding p = some ⟨net, .locked⟩ := by
  obtain ⟨w, hdst, hdrive, hw, hunique⟩ := hc.locked_pip hp
  obtain ⟨x, hx, _, _, _, hadm, hchange⟩ := bindPip_change hc h
  by_cases hxw : x = w
  · subst x
    rw [hw] at hadm
    obtain rfl := Binding.admits_locked hadm
    obtain rfl : q = p := by
      by_contra hne
      exact hq rfl hne (hx.trans hdst.symm)
    rw [hchange.pip_driver rfl rfl, Binding.rebound_net, hp, Binding.rebound_locked]
  · rw [hchange.pip_other ?_ fun hd => hxw (hunique x hd), hp]
    intro t sp ht hd
    obtain rfl := Option.some.inj ht
    obtain ⟨rfl, _⟩ : q = p ∧ _ := by simpa using hd
    exact hxw (Except.ok.inj (hx.symm.trans hdst))

/-- A net that binds another pip to the wire drops the one that drove it, whatever that was held at. -/
theorem Coherent.bindPip_drops (hc : c.Coherent) (hp : c.pipBinding p = some ⟨net, s⟩) (hq : q ≠ p)
    (hdst : c.device.pipDstWire q = c.device.pipDstWire p) {strength : Strength}
    (h : c.bindPip q net strength = .ok (.ok c')) : c'.pipBinding p = none := by
  obtain ⟨w, hdrive⟩ := (hc.pip_iff p net).1 (by rw [pipNet, hp]; rfl)
  obtain ⟨x, hx, -, -, -, -, hchange⟩ := bindPip_change hc h
  obtain rfl : w = x := hc.eq_of_leads hdrive (hdst.symm.trans hx)
  have hdriver : c.driver w = some p := hc.driver_eq_some_iff.2 ⟨net, hdrive⟩
  rw [hchange.pip, if_pos hdriver, Option.or_none, Option.bind_some]
  simp [Tenure.pipBinding, hq]

theorem Coherent.unbindWire_locked_pip (hc : c.Coherent)
    (hp : c.pipBinding p = some ⟨net, .locked⟩) (h : c.unbindWire x false = .ok (.ok c')) :
    c'.pipBinding p = some ⟨net, .locked⟩ := by
  obtain ⟨w, hdst, _, hw, hunique⟩ := hc.locked_pip hp
  obtain ⟨held, hheld, hforce, hchange⟩ := unbindWire_change hc h
  rw [hchange.pip_other (by simp) ?_, hp]
  intro hd
  obtain rfl := hunique x hd
  obtain rfl := Option.some.inj (hw.symm.trans hheld)
  exact absurd (hforce rfl) (by decide)

theorem Coherent.unbindPip_locked_pip (hc : c.Coherent)
    (hp : c.pipBinding p = some ⟨net, .locked⟩) (h : c.unbindPip q false = .ok (.ok c')) :
    c'.pipBinding p = some ⟨net, .locked⟩ := by
  obtain ⟨held, x, hheld, hforce, _, hdriver, hchange⟩ := unbindPip_change hc h
  rw [hchange.pip_other (by simp) ?_, hp]
  intro hd
  obtain rfl : q = p := Option.some.inj (hdriver.symm.trans hd)
  obtain rfl := Option.some.inj (hp.symm.trans hheld)
  exact absurd (hforce rfl) (by decide)

end Context

/-! ### Requests without force -/

namespace Act

/-- Whether a request binds, releases without force, or routes. -/
def Unforced : Act → Prop
  | bindWire .. | bindPip .. | route .. => True
  | unbindWire _ force | unbindPip _ force => force = false
  | _ => False

/-- Whether a request binds a wire or a pip. -/
def IsBind : Act → Prop
  | bindWire .. | bindPip .. => True
  | _ => False

/-- Whether a request releases a pip that drives the wire and is not locked itself. -/
def ReleasesDriver (c : Context) (w : WireId) : Act → Prop
  | unbindPip p _ =>
    c.driver w = some p ∧ ∀ held, c.pipBinding p = some held → held.strength ≠ .locked
  | _ => False

/-- Whether a request of a net binds another pip to the wire that the pip drives. -/
def Reroutes (c : Context) (net : NetId) (p : PipId) : Act → Prop
  | bindPip q other _ => other = net ∧ q ≠ p ∧ c.device.pipDstWire q = c.device.pipDstWire p
  | _ => False

/-- Whether a request does not reroute, or is a pass that is made of binding requests that do not. -/
def KeepsDriver (c : Context) (net : NetId) (p : PipId) : Act → Prop
  | route pass log => ∀ c', (route pass log).perform c = .ok c' →
    Run (fun c a => a.IsBind ∧ ¬ a.Reroutes c net p) c c'
  | a => ¬ a.Reroutes c net p

variable {c c' : Context} {a : Act} {w : WireId} {p : PipId} {net : NetId}

theorem ReleasesDriver.frees (hc : c.Coherent) (hr : a.ReleasesDriver c w) :
    ∃ c', a.perform c = .ok c' ∧ c'.wireBinding w = none := by
  cases a with
  | unbindPip p force =>
    obtain ⟨c', h, hnone⟩ := hc.unbindPip_frees force hr.1 hr.2
    refine ⟨c', ?_, hnone⟩
    rw [perform, h]
    rfl
  | _ => exact hr.elim

theorem Reroutes.drops (hc : c.Coherent) (hp : c.pipBinding p = some ⟨net, .locked⟩)
    (hr : a.Reroutes c net p) (h : a.Granted c c') : c'.pipBinding p = none := by
  cases h with
  | bindPip h =>
    obtain ⟨rfl, hne, hdst⟩ := hr
    exact hc.bindPip_drops hp hne hdst h
  | bindWire | unbindWire | unbindPip => exact hr.elim

theorem Unforced.isRouting (h : a.Unforced) : a.IsRouting := by
  cases a <;> trivial

theorem perform_locked (hc : c.Coherent) (hw : c.wireBinding w = some ⟨net, .locked⟩)
    (ha : a.Unforced) (hr : ¬ a.ReleasesDriver c w) (hperform : a.perform c = .ok c') :
    c'.wireBinding w = some ⟨net, .locked⟩ := by
  rcases perform_cases ha.isRouting hperform with rfl | hgranted | ⟨pass, log, o, rfl, ho, rfl⟩
  · exact hw
  · cases hgranted with
    | bindWire h => exact hc.bindWire_locked hw h
    | bindPip h => exact hc.bindPip_locked hw h
    | unbindWire h =>
      obtain rfl := ha
      exact hc.unbindWire_locked hw h
    | unbindPip h =>
      obtain rfl := ha
      refine hc.unbindPip_locked hw (fun hdriver => ?_) h
      by_contra hheld
      exact hr ⟨hdriver, fun held hb hlocked => hheld ⟨held, hb, hlocked⟩⟩
  · exact hc.route_locked hw ho

theorem granted_locked_pip (hc : c.Coherent) (hp : c.pipBinding p = some ⟨net, .locked⟩)
    (ha : a.Unforced) (hr : ¬ a.Reroutes c net p) (h : a.Granted c c') :
    c'.pipBinding p = some ⟨net, .locked⟩ := by
  cases h with
  | bindWire h => exact hc.bindWire_locked_pip hp h
  | bindPip h => exact hc.bindPip_locked_pip hp h fun hnet hne hdst => hr ⟨hnet, hne, hdst⟩
  | unbindWire h =>
    obtain rfl := ha
    exact hc.unbindWire_locked_pip hp h
  | unbindPip h =>
    obtain rfl := ha
    exact hc.unbindPip_locked_pip hp h

end Act

theorem Run.locked_pip_of_binds {c c' : Context} {net : NetId} {p : PipId} (hc : c.Coherent)
    (hp : c.pipBinding p = some ⟨net, .locked⟩)
    (h : Run (fun c a => a.IsBind ∧ ¬ a.Reroutes c net p) c c') :
    c'.pipBinding p = some ⟨net, .locked⟩ := by
  induction h with
  | start => exact hp
  | @step c₁ c₂ a hrun hstep hperform ih =>
    obtain ⟨hbind, hr⟩ := hstep
    have ha : a.Unforced := by
      cases a <;> trivial
    rcases Act.perform_cases ha.isRouting hperform with rfl | hgranted | ⟨pass, log, o, rfl, _, _⟩
    · exact ih
    · exact Act.granted_locked_pip (hrun.coherent hc) ih ha hr hgranted
    · cases hbind

namespace Act

variable {c c' : Context} {a : Act} {p : PipId} {net : NetId}

theorem perform_locked_pip (hc : c.Coherent) (hp : c.pipBinding p = some ⟨net, .locked⟩)
    (ha : a.Unforced) (hr : a.KeepsDriver c net p) (h : a.perform c = .ok c') :
    c'.pipBinding p = some ⟨net, .locked⟩ := by
  rcases perform_cases ha.isRouting h with rfl | hgranted | ⟨pass, log, o, rfl, ho, rfl⟩
  · exact hp
  · -- a request that is granted on its own is no pass
    refine granted_locked_pip hc hp ha ?_ hgranted
    cases hgranted <;> exact hr
  · exact (hr _ h).locked_pip_of_binds hc hp

/-- Where the lists of pips uphill are right, no pass drops a pip that its net has locked. -/
theorem route_keepsDriver (hd : c.device.AdjacencyConsistent) (hc : c.Coherent)
    (hp : c.pipBinding p = some ⟨net, .locked⟩) (pass : Pass) (log : Log) :
    (route pass log).KeepsDriver c net p := by
  intro c' h
  obtain ⟨o, ho, h⟩ := bind_eq_ok_iff.1 h
  obtain rfl := Except.ok.inj h
  have hk : pass.Keeps c fun _ _ c' _ _ => c'.pipBinding p = some ⟨net, .locked⟩ ∧
      Run (fun c a => a.IsBind ∧ ¬ a.Reroutes c net p) c c' := by
    refine ⟨id, ?_, ?_, ?_⟩
    · intro other _ _ c₁ c₂ _ _ w _ hc₁ _ hQ _ h
      refine ⟨hc₁.bindWire_locked_pip hQ.1 h, .step (a := bindWire w other pass.strength) hQ.2
        ⟨trivial, id⟩ ?_⟩
      rw [perform, h]
      rfl
    · intro other _ _ c₁ c₂ _ _ q _ hc₁ hu hQ hgraft h
      obtain ⟨x, hx, hforeign, _⟩ := (hgraft hd).dst
      have hr : ¬ (bindPip q other pass.strength).Reroutes c₁ net p := by
        rintro ⟨rfl, _, hdst⟩
        obtain ⟨y, hy, _, hw, _⟩ := hc₁.locked_pip hQ.1
        obtain rfl : x = y := Except.ok.inj (hx.symm.trans (hdst.trans hy))
        exact hforeign (by rw [Context.wireNet, hw]; rfl)
      refine ⟨granted_locked_pip (a := bindPip q other pass.strength) hc₁ hQ.1 trivial hr
        (.bindPip h), .step (a := bindPip q other pass.strength) hQ.2 ⟨trivial, hr⟩ ?_⟩
      rw [perform, h]
      rfl
    · intro _ _ _ _ _ _ _ _ _ _ _ hQ _ _
      exact hQ
  obtain ⟨_, _, _, _, _, _, _, hleft⟩ := Context.routePass_keeps hk hc ⟨hp, .start⟩ ho
  exact hleft.2

end Act

/-! ### Runs without force -/

theorem Run.locked {c c' : Context} {net : NetId} {w : WireId} (hc : c.Coherent)
    (hw : c.wireBinding w = some ⟨net, .locked⟩)
    (h : Run (fun c a => a.Unforced ∧ ¬ a.ReleasesDriver c w) c c') :
    c'.wireBinding w = some ⟨net, .locked⟩ := by
  induction h with
  | start => exact hw
  | step hrun hstep hperform ih =>
    exact Act.perform_locked (hrun.coherent hc) ih hstep.1 hstep.2 hperform

theorem Run.locked_pip {c c' : Context} {net : NetId} {p : PipId} (hc : c.Coherent)
    (hp : c.pipBinding p = some ⟨net, .locked⟩)
    (h : Run (fun c a => a.Unforced ∧ a.KeepsDriver c net p) c c') :
    c'.pipBinding p = some ⟨net, .locked⟩ := by
  induction h with
  | start => exact hp
  | step hrun hstep hperform ih =>
    exact Act.perform_locked_pip (hrun.coherent hc) ih hstep.1 hstep.2 hperform

/-- Without force a locked wire stays locked for its net as long as no pip that drives it and is not
locked itself is released, and such a release frees it. A locked pip stays locked as long as its net
binds no other pip to the same wire, and such a bind drops it. No pass makes one where every pip that
is listed uphill of a wire drives it. -/
theorem locked_stays {d : Device} {c : Context} (h : Reachable d c) :
    (∀ w net c', c.wireBinding w = some ⟨net, .locked⟩ →
      Run (fun c a => a.Unforced ∧ ¬ a.ReleasesDriver c w) c c' →
      c'.wireBinding w = some ⟨net, .locked⟩) ∧
    (∀ w (a : Act), a.ReleasesDriver c w → ∃ c', a.perform c = .ok c' ∧ c'.wireBinding w = none) ∧
    (∀ p net c', c.pipBinding p = some ⟨net, .locked⟩ →
      Run (fun c a => a.Unforced ∧ a.KeepsDriver c net p) c c' →
      c'.pipBinding p = some ⟨net, .locked⟩) ∧
    (∀ p net (a : Act) c', c.pipBinding p = some ⟨net, .locked⟩ → a.Reroutes c net p →
      a.Granted c c' → c'.pipBinding p = none) ∧
    (c.device.AdjacencyConsistent → ∀ p net pass log, c.pipBinding p = some ⟨net, .locked⟩ →
      (Act.route pass log).KeepsDriver c net p) := by
  have hc := h.coherent
  refine ⟨?_, ?_, ?_, ?_, ?_⟩
  · intro w net c' hw hrun
    exact hrun.locked hc hw
  · intro w a hr
    exact hr.frees hc
  · intro p net c' hp hrun
    exact hrun.locked_pip hc hp
  · intro p net a c' hp hr hgranted
    exact hr.drops hc hp hgranted
  · intro hd p net pass log hp
    exact Act.route_keepsDriver hd hc hp pass log

/-! A net that holds a pip and the wire that it drives, which the two pips of the fork lead to. -/

private theorem fork_locked : ∃ c, Reachable fork c ∧ c.device = fork ∧
    c.pipBinding ⟨0, 0⟩ = some ⟨0, .locked⟩ ∧
    c.wireBinding (.tile 0 1) = some ⟨0, .locked⟩ ∧
    (∃ c', (Act.bindWire (.tile 0 1) 1 .strong).perform c = .ok c') ∧
    ∃ c', c.bindPip ⟨0, 1⟩ 0 .weak = .ok (.ok c') :=
  ⟨_, .step (a := .bindPip ⟨0, 0⟩ 0 .locked) (.step (a := .edit (.net "n")) .start trivial rfl)
    trivial rfl, rfl, rfl, rfl, ⟨_, rfl⟩, _, rfl⟩

private theorem fork_locked_wire : ∃ c, Reachable fork c ∧
    c.wireBinding (.tile 0 1) = some ⟨0, .locked⟩ ∧
    (Act.unbindPip ⟨0, 0⟩ false).ReleasesDriver c (.tile 0 1) :=
  ⟨_, .step (a := .bindWire (.tile 0 1) 0 .locked) (.step (a := .bindPip ⟨0, 0⟩ 0 .weak)
    (.step (a := .edit (.net "n")) .start trivial rfl) trivial rfl) trivial rfl, rfl, rfl,
    fun held hheld => by cases Option.some.inj hheld; decide⟩

theorem locked_stays_fork : ∃ c c' c'', Reachable fork c ∧
    (Act.bindWire (.tile 0 1) 1 .strong).perform c = .ok c' ∧
    c'.wireBinding (.tile 0 1) = some ⟨0, .locked⟩ ∧ c'.pipBinding ⟨0, 0⟩ = some ⟨0, .locked⟩ ∧
    c.bindPip ⟨0, 1⟩ 0 .weak = .ok (.ok c'') ∧ c''.pipBinding ⟨0, 0⟩ = none ∧
    (Act.route .clock {}).KeepsDriver c 0 ⟨0, 0⟩ := by
  obtain ⟨c, hc, hdevice, hp, hw, ⟨c', hstep⟩, c'', hbind⟩ := fork_locked
  obtain ⟨hwires, -, hpips, hdrops, hpasses⟩ := locked_stays hc
  refine ⟨c, c', c'', hc, hstep, ?_, ?_, hbind, ?_, ?_⟩
  · exact hwires _ _ c' hw (.step (a := .bindWire (.tile 0 1) 1 .strong) .start ⟨trivial, id⟩ hstep)
  · exact hpips _ _ c' hp (.step (a := .bindWire (.tile 0 1) 1 .strong) .start ⟨trivial, id⟩ hstep)
  · refine hdrops _ _ (.bindPip ⟨0, 1⟩ 0 .weak) c'' hp ⟨rfl, by decide, ?_⟩ (.bindPip hbind)
    rw [hdevice]
    rfl
  · exact hpasses (hdevice ▸ Device.checkAdjacency_iff.1 rfl) _ _ _ _ hp

/-- A locked wire is free after its driver, which the net holds weakly, has been released without force. -/
theorem locked_wire_released : ∃ c c', Reachable fork c ∧
    c.wireBinding (.tile 0 1) = some ⟨0, .locked⟩ ∧ Run (fun _ a => a.Unforced) c c' ∧
    c'.wireBinding (.tile 0 1) = none := by
  obtain ⟨c, hc, hw, hr⟩ := fork_locked_wire
  obtain ⟨c', hstep, hnone⟩ := hr.frees hc.coherent
  exact ⟨c, c', hc, hw, .step (a := .unbindPip ⟨0, 0⟩ false) .start rfl hstep, hnone⟩

end Interconnect
