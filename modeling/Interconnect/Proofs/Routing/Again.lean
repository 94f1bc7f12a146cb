import Interconnect.Proofs.Routing.Growth
/-!
# Routing again

A pass that is run over what it has left behind takes nothing and releases nothing. The two runs go
through the same steps, one beside the other. A sink that the first run joined belongs to its net by
the end of that run, so the second finds it joined. A sink that the first run left was held by
another net, which holds it still, or was cut off from its net, and is so still.
-/
namespace Interconnect

theorem insert_of_getElem? {α β : Type} [Ord α] [Std.TransOrd α] [Std.LawfulEqOrd α] [DecidableEq α]
    {table : Std.ExtTreeMap α β} {k : α} {b : β} (h : table[k]? = some b) :
    table.insert k b = table := by
  apply Std.ExtTreeMap.ext_getElem?
  intro a
  rw [getElem?_insert_ite]
  by_cases ha : a = k
  · rw [if_pos ha, ha, h]
  · rw [if_neg ha]

/-! ### Two runs, one beside the other -/

/-- The second run comes to a state of a kind. Where not all names are known it may come to none. -/
def Repeats (named : Prop) (P : PassState → Prop) : Except Halt PassState → Prop
  | .ok t => P t
  | .error (.failed _ _) => False
  | .error (.fault _) => ¬ named

/-- What the second run is over: a context that agrees with the one where the first run began on all
but routing. -/
structure Rerun (c₀ last : Context) : Prop where
  adjacency : c₀.device.AdjacencyConsistent
  coherent : last.Coherent
  unrouted : last.unrouted = c₀.unrouted

/-- The second run, over the context that the first one left behind, has counted what the first one
had, except for pips. -/
structure Again (last : Context) (s t : PassState) : Prop where
  ctx : t.ctx = last
  report : t.report = { s.report with pipsBound := 0 }

namespace Repeats

variable {named : Prop} {P P' : PassState → Prop} {r : Except Halt PassState} {last : Context}

theorem mono (h : Repeats named P r) (hP : ∀ t, P t → P' t) : Repeats named P' r := by
  cases r with
  | ok t => exact hP t h
  | error halt => cases halt <;> exact h

theorem bind {next : PassState → Except Halt PassState} (h : Repeats named P r)
    (hnext : ∀ t, r = .ok t → P t → Repeats named P' (next t)) : Repeats named P' (r >>= next) := by
  cases r with
  | ok t => exact hnext t rfl h
  | error halt => cases halt <;> exact h

theorem ask {α : Type} {q : Query α} {a : α} {next : α → Except Halt PassState} (hq : q = .ok a)
    (h : Repeats named P (next a)) : Repeats named P (PassState.ask q >>= next) := by
  rw [hq]
  exact h

theorem askNamed {α : Type} {q : Query α} {next : α → Except Halt PassState}
    (hq : named → Answers q fun _ => True) (h : ∀ a, Repeats named P (next a)) :
    Repeats named P (PassState.ask q >>= next) := by
  cases q with
  | ok a => exact h a
  | error f =>
    intro hnamed
    obtain ⟨a, ha, _⟩ := hq hnamed
    cases ha

/-- Two walks over a list, step by step. The invariant of the first walk holds from the start on, and
what its steps say of the context in the end is known at the end. -/
theorem foldlM_collect {α β : Type} (step : PassState → α → Except Halt PassState)
    (yield : PassState → PassState → α → List β) (I K : List α → PassState → Prop)
    (hstep : ∀ x xs s s', I (x :: xs) s → step s x = .ok s' → I xs s' ∧ (K xs s' → K (x :: xs) s ∧
      ∀ t, Again last s t →
        Repeats named (fun t' => Again last s' t' ∧ yield t t' x = yield s s' x) (step t x)))
    {xs : List α} {s s' : PassState} (hI : I xs s) (hrun : xs.foldlM step s = .ok s')
    (hK : K [] s') :
    K xs s ∧ ∀ t, Again last s t → Repeats named
      (fun t' => Again last s' t' ∧ collect step yield t xs = collect step yield s xs)
      (xs.foldlM step t) := by
  induction xs generalizing s with
  | nil =>
    obtain rfl : s = s' := Except.ok.inj hrun
    exact ⟨hK, fun t ht => ⟨ht, rfl⟩⟩
  | cons x xs ih =>
    rw [List.foldlM_cons] at hrun
    obtain ⟨s₁, hx, hrun⟩ := bind_eq_ok_iff.1 hrun
    obtain ⟨hI₁, hback⟩ := hstep x xs s s₁ hI hx
    obtain ⟨hK₁, hrest⟩ := ih hI₁ hrun
    obtain ⟨hKx, hfirst⟩ := hback hK₁
    refine ⟨hKx, fun t ht => ?_⟩
    rw [List.foldlM_cons]
    refine (hfirst t ht).bind fun t₁ htx ⟨ht₁, hyield⟩ => (hrest t₁ ht₁).mono ?_
    rintro t' ⟨ht', hcollect⟩
    refine ⟨ht', ?_⟩
    rw [collect, htx, collect, hx]
    simp only [hyield, hcollect]

theorem outcome (h : Repeats named P r) :
    (∀ o, PassOutcome.of r = .ok o → ∃ t, P t ∧ o = ⟨.ok t.report, t.ctx, t.log⟩) ∧
      (named → ∃ o, PassOutcome.of r = .ok o) := by
  cases r with
  | ok t => exact ⟨fun o ho => ⟨t, h, (Except.ok.inj ho).symm⟩, fun _ => ⟨_, rfl⟩⟩
  | error halt =>
    cases halt with
    | failed e t => exact absurd h id
    | fault f => exact ⟨fun o ho => (nomatch ho), fun hnamed => absurd hnamed h⟩

end Repeats

theorem PassOutcome.of_eq_ok {r : Except Halt PassState} {o : PassOutcome} {report : RouteReport}
    (ho : PassOutcome.of r = .ok o) (hreport : o.result = .ok report) :
    ∃ s, r = .ok s ∧ o = ⟨.ok s.report, s.ctx, s.log⟩ := by
  cases r with
  | ok s => exact ⟨s, rfl, (Except.ok.inj ho).symm⟩
  | error halt =>
    cases halt with
    | fault f => cases ho
    | failed e s =>
      obtain rfl := Except.ok.inj ho
      cases hreport

theorem ask_bind_eq_ok_iff {α : Type} {q : Query α} {next : α → Except Halt PassState}
    {s : PassState} :
    PassState.ask q >>= next = .ok s ↔ ∃ a, q = .ok a ∧ next a = .ok s := by
  cases q <;> simp [PassState.ask, Except.mapError, bind, Except.bind]

namespace Context

variable {c c' last : Context} {net : NetId} {w : WireId} {s : Strength} {user : PortRef}

theorem bindWire_own (hc : c.Coherent) (hw : c.wireBinding w = some ⟨net, s⟩) :
    c.bindWire w net s = .ok (.ok c) := by
  obtain ⟨e, he, rfl⟩ := Option.map_eq_some_iff.1 ((hc.wire_iff w net s).1 hw)
  obtain ⟨n, hn, hwire⟩ := Option.bind_eq_some_iff.1 he
  have hnet : c.wireNet w = some net := by
    rw [wireNet, hw]
    rfl
  have hconflict := Binding.conflict?_eq_none_iff.2 (admits_of_own hnet e.strength)
  have hown : (c.wireBinding w).heldByOther net = false := by simp [hw, Binding.heldByOther]
  have hrebound : (c.wireBinding w).rebound net e.strength = ⟨net, e.strength⟩ := by
    rw [hw, Binding.rebound_own]
    cases e.strength <;> rfl
  have hdrive : c.drivingPip net w = e.pip := by
    rw [drivingPip_eq, he]
    rfl
  have hnetlist : c.netlist.modifyNet net (fun n => { n with wires := n.wires.insert w e }) =
      c.netlist := by
    have hnets : c.netlist.nets.modify net (fun n => { n with wires := n.wires.insert w e }) =
        c.netlist.nets := by
      apply Array.ext_getElem?
      intro i
      rw [Array.getElem?_modify]
      by_cases hi : net = i
      · rw [if_pos hi, ← hi, hn, Option.map_some, insert_of_getElem? hwire]
      · rw [if_neg hi]
    rw [Netlist.modifyNet, hnets]
  have hclaim : c.claimWire w net e.strength e.pip = c := by
    rw [claimWire]
    simp only [hrebound, insert_of_getElem? hw]
    rw [hnetlist]
  rw [bindWire, hconflict, Netlist.net, fetch_eq_ok_iff.2 hn]
  simp only [bind, Except.bind, pure, Except.pure, hown, Bool.false_eq_true, if_false, hdrive,
    hclaim]

theorem clockDriver?_of_unrouted (h : c'.unrouted = c.unrouted) {n n' : Net}
    (hn : n.unrouted = n'.unrouted) : c'.clockDriver? n' = c.clockDriver? n := by
  have hcells : c'.netlist.cells = c.netlist.cells := congrArg (·.netlist.cells) h
  have hdriver : n.driver = n'.driver := congrArg (·.driver) hn
  simp only [clockDriver?, Netlist.cell, hcells, hdriver]

theorem portName_of_unrouted (h : c'.unrouted = c.unrouted) (user : PortRef) :
    c'.portName user = c.portName user := by
  have hcells : c'.netlist.cells = c.netlist.cells := congrArg (·.netlist.cells) h
  simp only [portName, Netlist.cell, hcells, device_of_unrouted h]

theorem netsByName_of_unrouted (h : c'.unrouted = c.unrouted) :
    c'.netlist.netsByName = c.netlist.netsByName := by
  have hroutes (n : Netlist) : n.unrouted.netsByName = n.netsByName := by
    simp only [Netlist.netsByName, Netlist.unrouted, Array.toList_map, List.zipIdx_map,
      List.map_map]
    rfl
  have hnetlist : c'.netlist.unrouted = c.netlist.unrouted := congrArg (·.netlist) h
  rw [← hroutes, hnetlist, hroutes]

/-- Whether the ports have names that a clock pass may have to name. -/
def SinksNamed (c : Context) (pass : Pass) : Prop :=
  pass = .clock → ∀ net ∈ c.passNets .clock, ∀ n, c.netlist.net net = .ok n →
    ∀ user ∈ n.users, c.device.HasIdent user.port

end Context

/-! ### One arc -/

namespace Pass

variable {pass : Pass} {net : NetId} {name : String} {s s' t : PassState} {user : PortRef}
  {sink : WireId} {last : Context} {rest : List NetId} {named : Prop}

theorem giveUp_again {e e' : RouteError} {message message' : String}
    (hs : pass.giveUp e message s = .ok s') (ht : Again last s t) :
    Repeats named (Again last s') (pass.giveUp e' message' t) := by
  cases pass with
  | constant => cases hs
  | clock =>
    obtain rfl := Except.ok.inj hs
    refine ⟨?_, ?_⟩
    · simp [PassState.leave, ht.ctx]
    · simp [PassState.leave, ht.report]

theorem joinSink_again (hs : pass.joinSink net name user sink s = .ok s')
    (hgrows : s.ctx.Grows pass rest last) (hnet : net ∉ rest)
    (hport : last.portWire user = .ok (some sink))
    (hjoined : s.report.arcsRouted < s'.report.arcsRouted → last.wireNet sink = some net)
    (hnamed : named → pass = .clock → last.device.HasIdent user.port) (ht : Again last s t) :
    Repeats named (Again last s') (pass.joinSink net name user sink t) := by
  have hdevice : last.device = s.ctx.device := Context.device_of_unrouted hgrows.unrouted
  have hsink : last.device.IsHandle sink := Context.isHandle_of_portWire hport
  obtain ⟨ctx, log, report⟩ := t
  obtain rfl : ctx = last := ht.ctx
  rw [joinSink] at hs ⊢
  by_cases hadm : (s.ctx.wireBinding sink).admits net pass.strength = true
  · rw [if_neg (by simp [hadm])] at hs
    obtain ⟨found, hfound, hs⟩ := ask_bind_eq_ok_iff.1 hs
    cases found with
    | none =>
      obtain ⟨wire, hwire, hgive⟩ := ask_bind_eq_ok_iff.1 hs
      rw [← hdevice] at hwire
      have hclock : pass = .clock := by
        cases pass with
        | constant => cases hgive
        | clock => rfl
      -- another net may have come through the sink since
      by_cases hadm' : (ctx.wireBinding sink).admits net pass.strength = true
      · have hcut := hgrows.cut net sink hnet
          ((Context.searchUphill_eq_none_iff (hdevice ▸ hsink)).1 hfound)
        rw [if_neg (by simp [hadm'])]
        exact .ask ((Context.searchUphill_eq_none_iff hsink).2 hcut)
          (.ask hwire (giveUp_again hgive ht))
      · rw [if_pos (by simpa using hadm')]
        refine .ask hwire (.askNamed (fun h => ?_) fun pin => giveUp_again hgive ht)
        exact Context.answers_portName hport (hnamed h hclock)
    | some path =>
      obtain ⟨s₁, hpath, hs⟩ := bind_eq_ok_iff.1 hs
      obtain rfl := Except.ok.inj hs
      have hreport : Ends (fun s' => s'.report = { s.report with pipsBound := s'.report.pipsBound })
          (fun _ _ => True) (path.foldlM (pass.bindStep net name) s) := path_report
      rw [hpath] at hreport
      have hown : ctx.wireNet sink = some net := by
        refine hjoined ?_
        rw [show s₁.report = _ from hreport]
        exact Nat.lt_succ_self _
      rw [if_neg (by simp [Context.admits_of_own hown])]
      refine .ask (Context.searchUphill_of_own hown) ⟨rfl, ?_⟩
      have hsame : report = { s.report with pipsBound := 0 } := ht.report
      rw [show s₁.report = _ from hreport, hsame]
  · rw [if_pos (by simpa using hadm)] at hs
    obtain ⟨wire, hwire, hs⟩ := ask_bind_eq_ok_iff.1 hs
    obtain ⟨pin, hpin, hgive⟩ := ask_bind_eq_ok_iff.1 hs
    have hheld := hgrows.wireBinding_of_refused hadm
    rw [← hdevice] at hwire
    rw [← Context.portName_of_unrouted hgrows.unrouted] at hpin
    rw [if_pos (by simpa [hheld] using hadm)]
    exact .ask hwire (.ask hpin (giveUp_again hgive ht))

theorem routeArc_again (hs : pass.routeArc net name s user = .ok s')
    (hgrows : s.ctx.Grows pass rest last) (hnet : net ∉ rest)
    (hjoined : ∀ sink, last.portWire user = .ok (some sink) →
      s.report.arcsRouted < s'.report.arcsRouted → last.wireNet sink = some net)
    (hnamed : named → pass = .clock → last.device.HasIdent user.port) (ht : Again last s t) :
    Repeats named (Again last s') (pass.routeArc net name t user) := by
  have hdevice : last.device = s.ctx.device := Context.device_of_unrouted hgrows.unrouted
  have hname := Context.portName_of_unrouted hgrows.unrouted user
  obtain ⟨port, hport, hs⟩ := ask_bind_eq_ok_iff.1 hs
  rw [← Context.portWire_of_unrouted hgrows.unrouted] at hport
  obtain ⟨ctx, log, report⟩ := t
  obtain rfl : ctx = last := ht.ctx
  refine .ask hport ?_
  cases port with
  | none =>
    obtain ⟨pin, hpin, hgive⟩ := ask_bind_eq_ok_iff.1 hs
    exact .ask (hname.trans hpin) (giveUp_again hgive ht)
  | some sink =>
    have hdebug : ctx.debug = s.ctx.debug := congrArg (·.debug) hgrows.unrouted
    simp only at hs ⊢
    rw [hdebug]
    by_cases hon : s.ctx.debug = true
    · simp only [if_pos hon] at hs ⊢
      obtain ⟨pin, hpin, hs⟩ := ask_bind_eq_ok_iff.1 hs
      obtain ⟨wire, hwire, hs⟩ := ask_bind_eq_ok_iff.1 hs
      rw [← hdevice] at hwire
      refine .ask (hname.trans hpin) (.ask hwire ?_)
      refine joinSink_again hs ?_ hnet hport ?_ hnamed ?_
      · rwa [PassState.debugNote_ctx]
      · rw [PassState.debugNote_report]
        exact hjoined sink hport
      · exact ⟨by simp, by rw [PassState.debugNote_report, PassState.debugNote_report, ht.report]⟩
    · simp only [if_neg hon] at hs ⊢
      exact joinSink_again hs hgrows hnet hport (hjoined sink hport) hnamed ht

/-! ### One net -/

open Context (Forest)

variable {c₀ : Context} {arcs : List (NetId × PortRef)}

theorem userArc_again (hr : Rerun c₀ last) (hnet : net ∈ c₀.passNets pass) (hrest : net ∉ rest)
    {n : Net} (hn : c₀.netlist.net net = .ok n) (huser : user ∈ n.users)
    (hold : s.Holds c₀ (Forest pass rest arcs))
    (hs : pass.routeArc net name s user = .ok s') :
    (∃ arcs, s'.Holds c₀ (Forest pass rest arcs)) ∧ (s'.ctx.Grows pass rest last →
      s.ctx.Grows pass rest last ∧ ∀ t, Again last s t →
        Repeats (c₀.SinksNamed pass) (Again last s') (pass.routeArc net name t user)) := by
  have hk : pass.Keeps c₀ _ := Forest.grows hr.adjacency s.ctx rest
  have hbegin : s.Holds c₀ fun c n k =>
      Forest pass rest arcs c n k ∧ rest ⊆ rest ∧ s.ctx.Grows pass rest c :=
    ⟨hold.coherent, hold.unrouted, hold.holds, fun _ h => h, .refl pass rest s.ctx⟩
  have hgrow := hk.userArc name hnet (fun sink hsink => ⟨n, user, hn, huser, hsink⟩) hbegin
  rw [hs] at hgrow
  obtain ⟨hcoherent, hunrouted, hforest, -, hgrows⟩ := hgrow
  refine ⟨⟨_, hcoherent, hunrouted, hforest⟩, fun hlater => ?_⟩
  have hall : s.ctx.Grows pass rest last := hgrows.trans hlater fun _ h => h
  refine ⟨hall, fun t ht => routeArc_again hs hall hrest ?_ ?_ ht⟩
  · intro sink hsink hcounted
    obtain ⟨w, hw, hown⟩ := hforest.arcs net user (by simp [hcounted])
    rw [← Context.portWire_of_unrouted hlater.unrouted] at hw
    obtain rfl : w = sink := Option.some.inj (Except.ok.inj (hw.symm.trans hsink))
    exact hlater.wireNet hown
  · rintro hnamed rfl
    rw [Context.device_of_unrouted hr.unrouted]
    exact hnamed rfl net hnet n hn user huser

theorem claimSource_again (hr : Rerun c₀ last) (hnet : net ∈ c₀.passNets pass)
    (hold : s.Holds c₀ (Forest pass (net :: rest) arcs))
    (hs : pass.claimSource net name s = .ok s') :
    s'.Holds c₀ (Forest pass rest arcs) ∧ (s'.ctx.Grows pass rest last →
      s.ctx.Grows pass (net :: rest) last ∧ ∀ t, Again last s t →
        ∃ t', pass.claimSource net name t = .ok t' ∧ Again last s' t') := by
  have hclaim : Ends (fun s' => ∃ w c, s.ctx.sourceWire net = .ok (some w) ∧
      s.ctx.bindWire w net pass.strength = .ok (.ok c) ∧
      s' = ⟨c, s.log, { s.report with nets := s.report.nets + 1 }⟩) (fun _ _ => True)
      (pass.claimSource net name s) :=
    claimSource_ends (fun _ _ => trivial) fun w c hw hbind => ⟨w, c, hw, hbind, rfl⟩
  rw [hs] at hclaim
  obtain ⟨w, c, hw, hbind, rfl⟩ := hclaim
  have hk : pass.Keeps c₀ _ := Forest.grows hr.adjacency s.ctx (net :: rest)
  obtain ⟨hforest, -, hgrows⟩ := hk.source hnet hold.coherent hold.unrouted
    ⟨hold.holds, fun _ h => h, .refl pass (net :: rest) s.ctx⟩ hw hbind
  obtain ⟨_, _, hchange⟩ := Context.bindWire_change hold.coherent hbind
  refine ⟨⟨hold.coherent.bindWire hbind, hchange.unrouted.trans hold.unrouted, hforest⟩,
    fun hlater => ⟨hgrows.trans hlater fun m hm => by simp [hm], ?_⟩⟩
  rintro ⟨ctx, log, report⟩ ht
  obtain rfl : ctx = last := ht.ctx
  have hown : ctx.wireBinding w = some ⟨net, pass.strength⟩ := by
    have hnew := hchange.wireBinding_self
    have hstrength := hforest.strength w _ hnew
    rw [hlater.wire w _ hnew]
    exact congrArg some ((Hold.eq_mk_iff ..).2 ⟨Binding.rebound_net, hstrength⟩)
  have hsource : ctx.sourceWire net = .ok (some w) :=
    Context.sourceWire_of_unrouted (hold.unrouted.trans hr.unrouted.symm) hw
  refine ⟨⟨ctx, log, { report with nets := report.nets + 1 }⟩, ?_, rfl, ?_⟩
  · rw [claimSource]
    refine ask_bind_eq_ok_iff.2 ⟨_, hsource, ?_⟩
    exact ask_bind_eq_ok_iff.2 ⟨_, Context.bindWire_own hr.coherent hown, rfl⟩
  · rw [show report = _ from ht.report]

theorem routeNet_again (hr : Rerun c₀ last) (hnet : net ∈ c₀.passNets pass)
    (hold : s.Holds c₀ (Forest pass (net :: rest) arcs)) (hs : pass.routeNet s net = .ok s') :
    (∃ arcs, s'.Holds c₀ (Forest pass rest arcs)) ∧ (s'.ctx.Grows pass rest last →
      s.ctx.Grows pass (net :: rest) last ∧ ∀ t, Again last s t →
        Repeats (c₀.SinksNamed pass)
          (fun t' => Again last s' t' ∧ pass.netArcs t net = pass.netArcs s net)
          (pass.routeNet t net)) := by
  have hrest : net ∉ rest := (List.nodup_cons.1 hold.holds.nodup).1
  have hkeeps := (Forest.keeps hr.adjacency).routeNet hnet hold
  rw [hs] at hkeeps
  refine ⟨⟨_, hkeeps⟩, fun hlater => ?_⟩
  obtain ⟨n, hn, hs⟩ := ask_bind_eq_ok_iff.1 hs
  obtain ⟨s₁, hclaim, husers⟩ := bind_eq_ok_iff.1 hs
  obtain ⟨n₀, hn₀, hu₀⟩ := Context.net_of_unrouted hold.unrouted hn
  have husers₀ : n₀.users = n.users := congrArg (·.users) hu₀
  obtain ⟨hold₁, hback⟩ := claimSource_again hr hnet hold hclaim
  have hwalk : s₁.ctx.Grows pass rest last ∧ ∀ t, Again last s₁ t →
      Repeats (c₀.SinksNamed pass) (fun t' => Again last s' t' ∧
        pass.userArcs net n.name t n.users = pass.userArcs net n.name s₁ n.users)
        (n.users.foldlM (pass.routeArc net n.name) t) := by
    refine Repeats.foldlM_collect (pass.routeArc net n.name) _
      (fun users s => (∀ user ∈ users, user ∈ n.users) ∧
        ∃ arcs, s.Holds c₀ (Forest pass rest arcs))
      (fun _ s => s.ctx.Grows pass rest last) ?_ ⟨fun _ h => h, _, hold₁⟩ husers hlater
    rintro user users s s' ⟨hmem, arcs, hold⟩ hs
    obtain ⟨hold', hagain⟩ :=
      userArc_again hr hnet hrest hn₀ (husers₀ ▸ hmem user (by simp)) hold hs
    refine ⟨⟨fun u hu => hmem u (by simp [hu]), hold'⟩, fun hlater => ?_⟩
    obtain ⟨hgrows, hagain⟩ := hagain hlater
    refine ⟨hgrows, fun t ht => (hagain t ht).mono fun t' ht' => ⟨ht', ?_⟩⟩
    rw [ht.report, ht'.report]
  obtain ⟨hgrows₁, hwalk⟩ := hwalk
  obtain ⟨hgrows, hsource⟩ := hback hgrows₁
  refine ⟨hgrows, fun t ht => ?_⟩
  obtain ⟨t₁, hclaim', ht₁⟩ := hsource t ht
  have hunrouted : s.ctx.unrouted = t.ctx.unrouted := by rw [ht.ctx, hgrows.unrouted]
  obtain ⟨n', hn', hu'⟩ := Context.net_of_unrouted hunrouted hn
  have husers' : n'.users = n.users := congrArg (·.users) hu'
  have hname' : n'.name = n.name := congrArg (·.name) hu'
  have harcs : pass.netArcs s net = pass.userArcs net n.name s₁ n.users := by
    simp only [netArcs, hn, hclaim]
  have harcs' : pass.netArcs t net = pass.userArcs net n.name t₁ n.users := by
    simp only [netArcs, hn', hname', husers', hclaim']
  rw [harcs, harcs', routeNet]
  refine .ask hn' ?_
  rw [hname', husers', hclaim']
  exact hwalk t₁ ht₁

end Pass

/-! ### The whole pass -/

namespace Context

variable {c last : Context} {log : Log} {s' : PassState}

theorem Grows.antitone {pass : Pass} {ahead ahead' : List NetId} {c c' : Context}
    (h : c.Grows pass ahead' c') (hsub : ahead' ⊆ ahead) : c.Grows pass ahead c' :=
  (Grows.refl pass ahead c).trans h hsub

theorem constants_again (hr : Rerun c last)
    (hstart : Forest .constant (c.passOrder .constant) [] c 0 0) (hc : c.Coherent)
    (hrun : [Netlist.vccName, Netlist.gndName].foldlM routeConstant { ctx := c, log } = .ok s')
    (hlast : s'.ctx = last) (log' : Log) :
    Repeats (c.SinksNamed .constant)
      (fun t => Again last s' t ∧ last.constantArcs log' = c.constantArcs log)
      ([Netlist.vccName, Netlist.gndName].foldlM routeConstant { ctx := last, log := log' }) := by
  unfold constantArcs
  refine (Repeats.foldlM_collect routeConstant _
    (fun names s => (∀ name ∈ names, name ∈ [Netlist.vccName, Netlist.gndName]) ∧
      ∃ arcs, s.Holds c (Forest .constant (names.filterMap c.netlist.netByName) arcs))
    (fun names s => s.ctx.Grows .constant (names.filterMap c.netlist.netByName) last)
    ?_ (s := { ctx := c, log }) ⟨fun _ h => h, [], hc, rfl, hstart⟩ hrun ?_).2 _ ⟨rfl, rfl⟩
  · rintro name names s s' ⟨hmem, arcs, hold⟩ hs
    have hmem' : ∀ n ∈ names, n ∈ [Netlist.vccName, Netlist.gndName] :=
      fun n hn => hmem n (by simp [hn])
    rw [routeConstant, netByName_of_unrouted hold.unrouted] at hs
    cases hname : c.netlist.netByName name with
    | none =>
      rw [hname] at hs
      obtain rfl := Except.ok.inj hs
      rw [List.filterMap_cons_none hname] at hold ⊢
      refine ⟨⟨hmem', arcs, hold⟩, fun hlater => ⟨hlater, fun t ht => ?_⟩⟩
      rw [routeConstant, ht.ctx, netByName_of_unrouted hr.unrouted,
        netByName_of_unrouted hold.unrouted, hname]
      exact ⟨ht, rfl⟩
    | some net =>
      rw [hname] at hs
      rw [List.filterMap_cons_some hname] at hold ⊢
      have hnet : net ∈ c.passNets .constant :=
        List.mem_filterMap.2 ⟨name, hmem name (by simp), hname⟩
      obtain ⟨hold', hagain⟩ := Pass.routeNet_again hr hnet
        (s := s.note 1 s!"routing {name} connections") ⟨hold.coherent, hold.unrouted, hold.holds⟩ hs
      refine ⟨⟨hmem', hold'⟩, fun hlater => ?_⟩
      obtain ⟨hgrows, hagain⟩ := hagain hlater
      refine ⟨hgrows, fun t ht => ?_⟩
      rw [routeConstant, ht.ctx, netByName_of_unrouted hr.unrouted,
        netByName_of_unrouted hold.unrouted, hname]
      exact hagain (t.note 1 s!"routing {name} connections") ⟨ht.ctx, ht.report⟩
  · rw [hlast]
    exact .refl ..

theorem clocks_again (hr : Rerun c last)
    (hstart : Forest .clock (c.passOrder .clock) [] c 0 0) (hc : c.Coherent)
    (hrun : c.netlist.netsByName.foldlM routeClock
      (({ ctx := c, log } : PassState).note 2 "routing global clocks") = .ok s')
    (hlast : s'.ctx = last) (log' : Log) :
    Repeats (c.SinksNamed .clock)
      (fun t => Again last s' t ∧ last.clockArcs log' = c.clockArcs log)
      (last.netlist.netsByName.foldlM routeClock
        (({ ctx := last, log := log' } : PassState).note 2 "routing global clocks")) := by
  unfold clockArcs
  rw [netsByName_of_unrouted hr.unrouted]
  refine (Repeats.foldlM_collect routeClock _
    (fun nets s => ∃ arcs, s.Holds c (Forest .clock nets arcs))
    (fun nets s => s.ctx.Grows .clock nets last) ?_ ⟨[], hc, rfl, hstart⟩ hrun ?_).2 _ ⟨rfl, rfl⟩
  · rintro net nets s s' ⟨arcs, hold⟩ hs
    have hskip : s.Holds c (Forest .clock nets arcs) :=
      ⟨hold.coherent, hold.unrouted, (Forest.keeps hr.adjacency).skip hold.holds⟩
    have hunrouted : s.ctx.unrouted = last.unrouted := hold.unrouted.trans hr.unrouted.symm
    obtain ⟨n, hn, hs⟩ := ask_bind_eq_ok_iff.1 hs
    obtain ⟨found, hfound, hs⟩ := ask_bind_eq_ok_iff.1 hs
    obtain ⟨m, hm, hu⟩ := net_of_unrouted hunrouted hn
    have husers : m.users = n.users := congrArg (·.users) hu
    have hfound' : last.clockDriver? m = .ok found := by
      rw [← clockDriver?_of_unrouted hunrouted hu]
      exact hfound
    cases found with
    | none =>
      obtain rfl := Except.ok.inj hs
      refine ⟨⟨arcs, hskip⟩, fun hlater =>
        ⟨hlater.antitone (List.subset_cons_self ..), fun t ht => ?_⟩⟩
      simp only [clockNetArcs, ht.ctx, hn, hm, hfound, hfound']
      refine .ask (ht.ctx ▸ hm) (.ask (ht.ctx ▸ hfound') ?_)
      exact ⟨ht, trivial⟩
    | some cell =>
      by_cases hbel : cell.bel.isNone = true
      · simp only [if_pos hbel] at hs
        obtain rfl := Except.ok.inj hs
        refine ⟨⟨arcs, hskip.coherent, hskip.unrouted, hskip.holds⟩, fun hlater =>
          ⟨hlater.antitone (List.subset_cons_self ..), fun t ht => ?_⟩⟩
        simp only [clockNetArcs, ht.ctx, hn, hm, hfound, hfound', if_pos hbel]
        refine .ask (ht.ctx ▸ hm) (.ask (ht.ctx ▸ hfound') ?_)
        simp only [if_pos hbel, husers]
        exact ⟨⟨ht.ctx, by simp [PassState.leave, PassState.emit, ht.report]⟩, trivial⟩
      · simp only [if_neg hbel] at hs
        have hnet : net ∈ c.passNets .clock := by
          obtain ⟨n₀, hn₀, _⟩ := net_of_unrouted hold.unrouted hn
          refine List.mem_filter.2 ⟨List.mem_range.2 (lt_size_of_fetch hn₀), ?_⟩
          rw [← isClockNet_of_unrouted hold.unrouted, ← clockDriver?_isSome hn hfound]
          rfl
        obtain ⟨hold', hagain⟩ := Pass.routeNet_again hr hnet
          (s := s.note 3 s!"routing clock '{n.name}'") ⟨hold.coherent, hold.unrouted, hold.holds⟩ hs
        refine ⟨hold', fun hlater => ?_⟩
        obtain ⟨hgrows, hagain⟩ := hagain hlater
        refine ⟨hgrows, fun t ht => ?_⟩
        simp only [clockNetArcs, ht.ctx, hn, hm, hfound, hfound', if_neg hbel]
        refine .ask (ht.ctx ▸ hm) (.ask (ht.ctx ▸ hfound') ?_)
        simp only [if_neg hbel]
        exact hagain (t.note 3 s!"routing clock '{m.name}'") ⟨ht.ctx, ht.report⟩
  · rw [hlast]
    exact .refl ..

/-- A pass that succeeds where nothing is bound succeeds again over what it left behind. The second
run binds no pip and changes nothing of the context, and it counts the same arcs as routed and as
many as left. It has an answer whenever the ports that it may have to name have names: an arc that
found no way before may find its sink held now, and that is reported by the name of the port. -/
theorem routePass_again {d : Device} {pass : Pass} (h : Reachable d c)
    (hd : c.device.AdjacencyConsistent) (hw : c.wireHolds = ∅) (hp : c.pipHolds = ∅)
    {o : PassOutcome} {report : RouteReport} (ho : c.routePass log pass = .ok o)
    (hreport : o.result = .ok report) (log' : Log) :
    (∀ o', o.ctx.routePass log' pass = .ok o' →
      o'.result = .ok { report with pipsBound := 0 } ∧ o'.ctx = o.ctx ∧
        o.ctx.passArcs log' pass = c.passArcs log pass) ∧
    (c.SinksNamed pass → ∃ o', o.ctx.routePass log' pass = .ok o') := by
  have hstart : Forest pass (c.passOrder pass) [] c 0 0 :=
    .start (passOrder_nodup h.indexed pass) hw hp
  obtain ⟨hcoherent, hunrouted, _⟩ := routePass_keeps (Forest.keeps hd) h.coherent hstart ho
  have hr : Rerun c o.ctx := ⟨hd, hcoherent, hunrouted⟩
  have hsame : ∀ {s' r}, o = ⟨.ok s'.report, s'.ctx, s'.log⟩ → Repeats (c.SinksNamed pass)
      (fun t => Again o.ctx s' t ∧ o.ctx.passArcs log' pass = c.passArcs log pass) r →
      (∀ o', PassOutcome.of r = .ok o' → o'.result = .ok { report with pipsBound := 0 } ∧
        o'.ctx = o.ctx ∧ o.ctx.passArcs log' pass = c.passArcs log pass) ∧
      (c.SinksNamed pass → ∃ o', PassOutcome.of r = .ok o') := by
    rintro s' r rfl hagain
    obtain rfl := Except.ok.inj hreport
    refine ⟨fun o' ho' => ?_, hagain.outcome.2⟩
    obtain ⟨t, ⟨ht, harcs⟩, rfl⟩ := hagain.outcome.1 o' ho'
    exact ⟨congrArg _ ht.report, ht.ctx, harcs⟩
  cases pass with
  | constant =>
    obtain ⟨s', hrun, hs'⟩ := PassOutcome.of_eq_ok ho hreport
    refine hsame hs' (constants_again hr hstart h.coherent hrun ?_ log')
    rw [hs']
  | clock =>
    obtain ⟨s', hrun, hs'⟩ := PassOutcome.of_eq_ok ho hreport
    refine hsame hs' (clocks_again hr hstart h.coherent hrun ?_ log')
    rw [hs']

/-! Both nets of `crossing` as clocks: the first takes the wire that the other needs too. -/

def rivalActs : List Act :=
  crossingActs ++ [.setCell 0 fun cell => { cell with cellType := Known.ident "BUFGCTRL" }]

theorem routePass_again_rivals : ∃ c o o' report,
    Act.performAll { device := { crossing with ids := Known.table } } rivalActs = .ok c ∧
    c.routePass {} .clock = .ok o ∧ o.result = .ok report ∧ report.arcsLeft = 1 ∧
    o.ctx.routePass {} .clock = .ok o' ∧ o'.result = .ok { report with pipsBound := 0 } ∧
    o'.ctx = o.ctx := by
  have hrun : (do
      let c ← Act.performAll { device := { crossing with ids := Known.table } } rivalActs
      let o ← PassOutcome.of ([0, 1].foldlM routeClock
        (({ ctx := c, log := {} } : PassState).note 2 "routing global clocks"))
      return decide (c.netlist.nets.toList.map (·.name) = [Netlist.vccName, "clk"] ∧
        c.device.checkAdjacency ∧ c.wireHolds.isEmpty ∧ c.pipHolds.isEmpty ∧
        (∀ n ∈ c.netlist.nets.toList, ∀ user ∈ n.users, user.port < c.device.ids.size) ∧
        o.result.toOption.map (·.arcsLeft) = some 1)) = Except.ok true := by decide +kernel
  obtain ⟨c, hc, hrun⟩ := bind_eq_ok_iff.1 hrun
  obtain ⟨o, ho, hrun⟩ := bind_eq_ok_iff.1 hrun
  obtain ⟨hnames, hadjacency, hwires, hpips, hports, hleft⟩ :=
    of_decide_eq_true (Except.ok.inj hrun)
  have hreach : Reachable _ c := Run.start.performAll (fun _ _ _ => trivial) hc
  have hroute : c.routePass {} .clock = .ok o := (routeClocks_crossing hnames).trans ho
  have hnamed : c.SinksNamed .clock := by
    intro _ net _ n hn user huser
    have hmem : n ∈ c.netlist.nets := Array.mem_of_getElem? (fetch_eq_ok_iff.1 hn)
    exact hports n (Array.mem_toList_iff.2 hmem) user huser
  cases hreport : o.result with
  | error e =>
    rw [hreport] at hleft
    cases hleft
  | ok report =>
    obtain ⟨hsame, hagain⟩ := routePass_again hreach (Device.checkAdjacency_iff.1 hadjacency)
      (Std.ExtTreeMap.isEmpty_iff.1 hwires) (Std.ExtTreeMap.isEmpty_iff.1 hpips) hroute hreport {}
    obtain ⟨o', ho'⟩ := hagain hnamed
    obtain ⟨hresult, hctx, _⟩ := hsame o' ho'
    rw [hreport] at hleft
    exact ⟨c, o, o', report, hc, hroute, hreport, Option.some.inj hleft, ho', hresult, hctx⟩

end Context
end Interconnect
