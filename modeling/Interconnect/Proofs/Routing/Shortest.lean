import Interconnect.Proofs.Device.Member
import Interconnect.Proofs.Routing.Ending
import Mathlib.Data.List.Chain
/-!
# Shortest paths

A search visits wires in the order of their distance from the sink. When it comes to a wire of the net,
no wire that fewer pips lead up to is the net's. It follows the pips that are listed uphill of a wire,
and so no others count.
-/
namespace Interconnect

namespace Device

def startWire (d : Device) (sink : WireId) : List PipId → Query WireId
  | [] => .ok sink
  | p :: _ => d.pipSrcWire p

/-- The wires that pips down to a sink leave, and the sink. -/
def wiresAlong (d : Device) (sink : WireId) : List PipId → Query (List WireId)
  | [] => .ok [sink]
  | p :: ps => do
    let w ← d.pipSrcWire p
    return w :: (← d.wiresAlong sink ps)

theorem AdjacencyConsistent.listed_at {d : Device} (hd : d.AdjacencyConsistent) {p : PipId}
    {w : WireId} (h : d.Listed p) (hdst : d.pipDstWire p = .ok w) :
    ∃ pips, d.pipsUphill w = .ok pips ∧ p ∈ pips := by
  obtain ⟨x, pips, hx, hpips, hp⟩ := h
  obtain rfl : w = x := Except.ok.inj (hdst.symm.trans (hd x pips hx hpips p hp))
  exact ⟨pips, hpips, hp⟩

end Device

namespace Context

variable {c : Context} {pass : Pass} {net : NetId} {sink w x y : WireId} {p : PipId}
  {ps qs pips : List PipId} {near far rest pops : List WireId} {f g : Frontier} {n : Nat}

/-- Whether a net may take a pip, and the wire that the pip leaves. -/
structure Passable (c : Context) (pass : Pass) (net : NetId) (p : PipId) : Prop where
  enabled : c.device.isBlacklisted p = .ok false
  free : ∀ owner, c.pipNet p = some owner → owner = net
  source : ∃ w i, c.device.pipSrcWire p = .ok w ∧ c.device.wireIntent w = .ok i ∧
    pass.admitsIntent i = true ∧ ∀ owner, c.wireNet w = some owner → owner = net

/-- Pips that a net may take, from wire to wire down to a sink. -/
structure Admissible (c : Context) (pass : Pass) (net : NetId) (sink : WireId) (ps : List PipId) :
    Prop where
  ends : ∀ p, ps.getLast? = some p → c.device.pipDstWire p = .ok sink
  joined : ps.IsChain fun p q => ∃ w, c.device.pipDstWire p = .ok w ∧ c.device.pipSrcWire q = .ok w
  passable : ∀ p ∈ ps, c.Passable pass net p

/-- Whether pips down to a sink start from a wire of the net. -/
def Complete (c : Context) (net : NetId) (sink : WireId) (ps : List PipId) : Prop :=
  ∃ w, c.device.startWire sink ps = .ok w ∧ c.wireNet w = some net

theorem admissible_cons_iff : c.Admissible pass net sink (p :: ps) ↔ c.Passable pass net p ∧
    (∃ w, c.device.pipDstWire p = .ok w ∧ c.device.startWire sink ps = .ok w) ∧
    c.Admissible pass net sink ps := by
  constructor
  · intro h
    refine ⟨h.passable p (by simp), ?_, ?_, h.joined.tail, fun q hq => h.passable q (by simp [hq])⟩
    · cases ps with
      | nil => exact ⟨sink, h.ends p rfl, rfl⟩
      | cons q ps => exact (List.isChain_cons_cons.1 h.joined).1
    · intro q hq
      apply h.ends q
      cases ps with
      | nil => cases hq
      | cons => rwa [List.getLast?_cons_cons]
  · rintro ⟨hp, ⟨w, hdst, hstart⟩, hps⟩
    refine ⟨?_, ?_, List.forall_mem_cons.2 ⟨hp, hps.passable⟩⟩
    · intro q hq
      cases ps with
      | nil =>
        obtain rfl : p = q := Option.some.inj hq
        obtain rfl : sink = w := Except.ok.inj hstart
        exact hdst
      | cons r ps =>
        rw [List.getLast?_cons_cons] at hq
        exact hps.ends q hq
    · cases ps with
      | nil => exact List.isChain_singleton p
      | cons r ps => exact List.isChain_cons_cons.2 ⟨⟨w, hdst, hstart⟩, hps.joined⟩

/-! ### Ascents -/

/-- The pips from a wire down to the sink along which a search may come up to the wire. -/
inductive Ascent (c : Context) (pass : Pass) (net : NetId) (sink : WireId) :
    WireId → List PipId → Prop
  | start : Ascent c pass net sink sink []
  | step {w x : WireId} {p : PipId} {ps : List PipId} : Ascent c pass net sink w ps →
      c.device.pipDstWire p = .ok w → c.Leg pass net x p → Ascent c pass net sink x (p :: ps)

theorem heldByOther_eq_false_iff : (c.wireBinding w).heldByOther net = false ↔
    ∀ owner, c.wireNet w = some owner → owner = net := by
  rw [wireNet]
  cases c.wireBinding w with
  | none => simp [Binding.heldByOther]
  | some held => simp [Binding.heldByOther]

theorem leg_iff : c.Leg pass net w p ↔
    c.device.pipSrcWire p = .ok w ∧ c.Passable pass net p ∧ c.device.Listed p := by
  constructor
  · intro h
    obtain ⟨i, hi, hadmits⟩ := h.intent
    obtain ⟨henabled, hfree⟩ := isPipFreeFor_eq_true_iff.1 h.free
    have hsource := heldByOther_eq_false_iff.1 h.unheld
    exact ⟨h.src, ⟨henabled, hfree, w, i, h.src, hi, hadmits, hsource⟩, h.listed⟩
  · rintro ⟨hsrc, ⟨henabled, hfree, x, i, hx, hi, hadmits, hsource⟩, hlisted⟩
    obtain rfl : w = x := Except.ok.inj (hsrc.symm.trans hx)
    exact ⟨hlisted, hsrc, isPipFreeFor_eq_true_iff.2 ⟨henabled, hfree⟩, ⟨i, hi, hadmits⟩,
      heldByOther_eq_false_iff.2 hsource⟩

theorem ascent_iff : c.Ascent pass net sink w ps ↔ c.device.startWire sink ps = .ok w ∧
    c.Admissible pass net sink ps ∧ ∀ p ∈ ps, c.device.Listed p := by
  induction ps generalizing w with
  | nil =>
    constructor
    · rintro ⟨⟩
      exact ⟨rfl, ⟨by simp, List.isChain_nil, by simp⟩, by simp⟩
    · rintro ⟨hstart, -, -⟩
      obtain rfl : sink = w := Except.ok.inj hstart
      exact .start
  | cons p ps ih =>
    rw [admissible_cons_iff, List.forall_mem_cons]
    constructor
    · rintro (_ | ⟨hps, hdst, hleg⟩)
      obtain ⟨hsrc, hp, hlisted⟩ := leg_iff.1 hleg
      obtain ⟨hstart, hadmissible, hall⟩ := ih.1 hps
      exact ⟨hsrc, ⟨hp, ⟨_, hdst, hstart⟩, hadmissible⟩, hlisted, hall⟩
    · rintro ⟨hsrc, ⟨hp, ⟨x, hdst, hstart⟩, hadmissible⟩, hlisted, hall⟩
      exact .step (ih.2 ⟨hstart, hadmissible, hall⟩) hdst (leg_iff.2 ⟨hsrc, hp, hlisted⟩)

theorem Route.ascent (h : c.Route pass net sink w ps) : c.Ascent pass net sink w ps := by
  induction ps generalizing w with
  | nil =>
    obtain rfl : w = sink := h
    exact .start
  | cons p ps ih =>
    obtain ⟨hleg, x, hdst, -, -, -, hroute⟩ := h
    exact .step (ih hroute) hdst hleg

/-- Past the first wire, every wire of a route is driven by one of its pips, and by one only. -/
theorem Route.wiresAlong (h : c.Route pass net sink w ps) : ∃ ws,
    c.device.wiresAlong sink ps = .ok (w :: ws) ∧ ws.Nodup ∧
      ∀ x ∈ ws, c.wireNet x ≠ some net ∧ ∃ p ∈ ps, c.device.pipDstWire p = .ok x := by
  induction ps generalizing w with
  | nil =>
    obtain rfl : w = sink := h
    exact ⟨[], rfl, List.nodup_nil, by simp⟩
  | cons p ps ih =>
    obtain ⟨hleg, x, hdst, hforeign, -, hlater, hroute⟩ := h
    obtain ⟨ws, hws, hnodup, hdriven⟩ := ih hroute
    refine ⟨x :: ws, ?_, List.nodup_cons.2 ⟨fun hx => ?_, hnodup⟩, ?_⟩
    · simp only [Device.wiresAlong, hleg.src, hws, bind, Except.bind, pure, Except.pure]
    · obtain ⟨-, q, hq, hqx⟩ := hdriven x hx
      exact hlater q hq hqx
    · intro v hv
      rcases List.mem_cons.1 hv with rfl | hv
      · exact ⟨hforeign, p, by simp, hdst⟩
      · obtain ⟨hforeign', q, hq, hqv⟩ := hdriven v hv
        exact ⟨hforeign', q, by simp [hq], hqv⟩

/-! ### Visits in order -/

/-- A search that visits the wires at a distance from the sink. Those that are still to be visited come
first on the queue, before the wires that are one pip further up. -/
structure Layered (c : Context) (pass : Pass) (net : NetId) (sink : WireId) (n : Nat)
    (near far : List WireId) (f : Frontier) : Prop where
  queue : f.queue = near ++ far
  atNear : ∀ w ∈ near, ∃ ps, Trail c.device f.trace w ps ∧ ps.length = n
  atFar : ∀ w ∈ far, ∃ ps, Trail c.device f.trace w ps ∧ ps.length = n + 1
  closer : ∀ w ps, c.Ascent pass net sink w ps → ps.length < n → c.wireNet w ≠ some net
  level : ∀ w ps, c.Ascent pass net sink w ps → ps.length = n → w ∈ near ∨ c.Passed pass net f w

/-- The wires that a round puts onto the queue were met one pip further up. -/
theorem trails_round (hlisted : ∀ p ∈ pips, c.device.Listed p)
    (hdst : ∀ p ∈ pips, c.device.pipDstWire p = .ok y) (hy : Trail c.device f.trace y ps)
    (hg : pips.foldlM (c.expandPip pass net) f = .ok g) :
    (∀ w qs, Trail c.device f.trace w qs → Trail c.device g.trace w qs) ∧
      ∃ more, g.queue = f.queue ++ more ∧ ∀ w ∈ more, ∃ p, Trail c.device g.trace w (p :: ps) := by
  refine foldlM_keeps (I := fun g => (∀ w qs, Trail c.device f.trace w qs → Trail c.device g.trace w qs) ∧
    ∃ more, g.queue = f.queue ++ more ∧ ∀ w ∈ more, ∃ p, Trail c.device g.trace w (p :: ps))
    ?_ ⟨fun _ _ h => h, [], by simp, by simp⟩ hg
  rintro a p b hp ⟨hold, more, hqueue, hmore⟩ hb
  rcases expandPip_cases (hlisted p hp) hb with rfl | ⟨x, -, hx, rfl⟩
  · exact ⟨hold, more, hqueue, hmore⟩
  · have hx' : Trail c.device (a.meet x p).trace x (p :: ps) := by
      refine .pip ?_ (hdst p hp) ((hold y ps hy).insert hx)
      rw [Frontier.meet, getElem?_insert_ite, if_pos rfl]
    refine ⟨fun w qs hw => (hold w qs hw).insert hx, more ++ [x], ?_, ?_⟩
    · rw [Frontier.meet, hqueue, List.append_assoc]
    · intro w hw
      rcases List.mem_append.1 hw with hw | hw
      · obtain ⟨q, hq⟩ := hmore w hw
        exact ⟨q, hq.insert hx⟩
      · rw [List.mem_singleton.1 hw]
        exact ⟨p, hx'⟩

namespace Layered

theorem start (sink : WireId) : c.Layered pass net sink 0 [sink] [] (.start sink) := by
  refine ⟨rfl, ?_, by simp, by simp, ?_⟩
  · intro w hw
    rw [List.mem_singleton.1 hw]
    refine ⟨[], .start ?_, rfl⟩
    rw [Frontier.start, getElem?_insert_ite, if_pos rfl]
  · intro w ps hw hlength
    cases hw with
    | start => exact Or.inl (by simp)
    | step => simp at hlength

theorem next (hd : c.device.AdjacencyConsistent) (h : c.Layered pass net sink n [] far f)
    (hswept : c.Swept pass net f) : c.Layered pass net sink (n + 1) far [] f := by
  have hpassed (w : WireId) (ps : List PipId) (hw : c.Ascent pass net sink w ps)
      (hlength : ps.length = n) : c.Passed pass net f w :=
    (h.level w ps hw hlength).resolve_left List.not_mem_nil
  refine ⟨by rw [h.queue]; simp, h.atFar, by simp, ?_, ?_⟩
  · intro w ps hw hlength
    rcases Nat.lt_succ_iff_lt_or_eq.1 hlength with hlt | heq
    · exact h.closer w ps hw hlt
    · exact (hpassed w ps hw heq).1
  · intro x ps hx hlength
    cases hx with
    | start => simp at hlength
    | @step w _ p ps hw hdst hleg =>
      -- the wire that the pip drives has been visited
      obtain ⟨pips, hpips, hp⟩ := hd.listed_at hleg.listed hdst
      have hmet := (hpassed w ps hw (Nat.succ.inj hlength)).2 pips p x hpips hp hleg
      exact (hswept x hmet).imp_left fun hwaits => by simpa [h.queue] using hwaits

theorem head (hd : c.device.AdjacencyConsistent) (h : c.Layered pass net sink n near far f)
    (hswept : c.Swept pass net f) (hq : f.queue = y :: rest) :
    ∃ n near far, c.Layered pass net sink n (y :: near) far f ∧ rest = near ++ far := by
  have hqueue := h.queue.symm.trans hq
  cases near with
  | nil =>
    obtain rfl : far = y :: rest := hqueue
    exact ⟨n + 1, rest, [], h.next hd hswept, by simp⟩
  | cons x near =>
    obtain ⟨rfl, rfl⟩ := List.cons.inj hqueue
    exact ⟨n, near, far, h, rfl⟩

theorem round (hd : c.device.AdjacencyConsistent) (hy : c.device.IsHandle y)
    (h : c.Layered pass net sink n (y :: near) far f) (hswept : c.Swept pass net f)
    (hforeign : c.wireNet y ≠ some net) (hpips : c.device.pipsUphill y = .ok pips)
    (hg : pips.foldlM (c.expandPip pass net) { f with queue := near ++ far } = .ok g) :
    c.Swept pass net g ∧ ∃ far', c.Layered pass net sink n near far' g := by
  have hlisted (p : PipId) (hp : p ∈ pips) : c.device.Listed p := ⟨y, pips, hy, hpips, hp⟩
  have hround : Answers (pips.foldlM (c.expandPip pass net) { f with queue := near ++ far })
      (c.Expands pass net pips { f with queue := near ++ far }) := answers_expandPips hlisted
  obtain ⟨g', hg', hexpands⟩ := hround
  obtain rfl : g = g' := Except.ok.inj (hg.symm.trans hg')
  obtain ⟨hswept', hpassed, hkeeps⟩ := hswept.round h.queue hforeign hpips hexpands
  obtain ⟨ps, htrail, hlength⟩ := h.atNear y (by simp)
  obtain ⟨hold, more, hqueue, hmore⟩ :=
    trails_round (f := { f with queue := near ++ far }) hlisted (hd y pips hy hpips) htrail hg
  refine ⟨hswept', far ++ more, by rw [hqueue, List.append_assoc], ?_, ?_, h.closer, ?_⟩
  · intro w hw
    obtain ⟨qs, hqs, hlength⟩ := h.atNear w (by simp [hw])
    exact ⟨qs, hold w qs hqs, hlength⟩
  · intro w hw
    rcases List.mem_append.1 hw with hw | hw
    · obtain ⟨qs, hqs, hlength⟩ := h.atFar w hw
      exact ⟨qs, hold w qs hqs, hlength⟩
    · obtain ⟨p, hp⟩ := hmore w hw
      exact ⟨p :: ps, hp, by rw [List.length_cons, hlength]⟩
  · intro w qs hw hqs
    rcases h.level w qs hw hqs with hnear | hbefore
    · rcases List.mem_cons.1 hnear with rfl | hnear
      · exact Or.inr hpassed
      · exact Or.inl hnear
    · exact Or.inr (hkeeps w hbefore)

end Layered

/-- When the visits end at a wire of the net, no wire that fewer pips lead up to is the net's. -/
theorem Visits.shortest (hd : c.device.AdjacencyConsistent)
    (h : c.Visits pass net f pops (some (w, g))) (htidy : c.Tidy pass net f)
    (hswept : c.Swept pass net f) (hlayered : c.Layered pass net sink n near far f) :
    ∃ ps, Trail c.device g.trace w ps ∧ ∀ v qs, c.Ascent pass net sink v qs →
      c.wireNet v = some net → ps.length ≤ qs.length := by
  generalize hfound : some (w, g) = found at h
  induction h generalizing n near far with
  | dry => cases hfound
  | found hq hnet =>
    obtain ⟨rfl, rfl⟩ := Prod.mk.inj (Option.some.inj hfound)
    obtain ⟨n, near, far, hlayered, -⟩ := hlayered.head hd hswept hq
    obtain ⟨ps, htrail, hlength⟩ := hlayered.atNear w (by simp)
    refine ⟨ps, htrail, fun v qs hv hown => ?_⟩
    by_contra hlt
    exact hlayered.closer v qs hv (by omega) hown
  | @pass f g' y rest pops pips found hq hforeign hpips hg _ ih =>
    obtain ⟨n, near, far, hlayered, rfl⟩ := hlayered.head hd hswept hq
    obtain ⟨hswept', far', hlayered'⟩ :=
      hlayered.round hd (htidy.handle y (by simp [hq])) hswept hforeign hpips hg
    exact ih (htidy.round hq hpips hg).1 hswept' hlayered' hfound

theorem length_le_of_searchUphill (hd : c.device.AdjacencyConsistent) (hsink : c.device.IsHandle sink)
    {path : List PipId} (h : c.searchUphill pass net sink = .ok (some path))
    (hx : c.Ascent pass net sink x ps) (hown : c.wireNet x = some net) : path.length ≤ ps.length := by
  obtain ⟨found, hv, h⟩ := bind_eq_ok_iff.1 h
  cases found with
  | none => simp [pure, Except.pure] at h
  | some found =>
    obtain ⟨w, f⟩ := found
    obtain ⟨back, hback, h⟩ := bind_eq_ok_iff.1 h
    obtain rfl : back = path := Option.some.inj (Except.ok.inj h)
    obtain ⟨pops, hvisits⟩ := exists_visits hv
    obtain ⟨qs, htrail, hleast⟩ := hvisits.shortest hd (.start hsink) swept_start (.start sink)
    rw [walkBack_eq htrail hback]
    exact hleast x ps hx hown

theorem Uphill.exists_ascent (hd : c.device.AdjacencyConsistent) (hsink : c.device.IsHandle sink)
    (h : c.Uphill pass net sink w) : ∃ ps, c.Ascent pass net sink w ps := by
  induction h with
  | start => exact ⟨[], .start⟩
  | @step w x pips p hw hpips hp hleg ih =>
    obtain ⟨ps, hps⟩ := ih
    exact ⟨p :: ps, .step hps (hd w pips (hw.isHandle hsink) hpips p hp) hleg⟩

theorem Ascent.uphill (hd : c.device.AdjacencyConsistent) (h : c.Ascent pass net sink w ps) :
    c.Uphill pass net sink w := by
  induction h with
  | start => exact .start
  | @step w x p ps _ hdst hleg ih =>
    obtain ⟨pips, hpips, hp⟩ := hd.listed_at hleg.listed hdst
    exact ih.step hpips hp hleg

/-- A search up the lists of a device finds nothing exactly if no listed pips down to the sink may be
taken from a wire of the net. Otherwise it answers with the fewest such pips, along wires that are all
different, and only the first of them is the net's. -/
theorem search_shortest (hd : c.device.AdjacencyConsistent) (hsink : c.device.IsHandle sink)
    (pass : Pass) (net : NetId) : ∃ answer, c.searchUphill pass net sink = .ok answer ∧
      (answer = none ↔ ∀ ps, (∀ p ∈ ps, c.device.Listed p) → c.Admissible pass net sink ps →
        ¬ c.Complete net sink ps) ∧
      ∀ path, answer = some path → (∀ p ∈ path, c.device.Listed p) ∧
        c.Admissible pass net sink path ∧ c.Complete net sink path ∧
        (∀ ps, (∀ p ∈ ps, c.device.Listed p) → c.Admissible pass net sink ps →
          c.Complete net sink ps → path.length ≤ ps.length) ∧
        ∃ w ws, c.device.wiresAlong sink path = .ok (w :: ws) ∧ (w :: ws).Nodup ∧
          c.wireNet w = some net ∧ ∀ x ∈ ws, c.wireNet x ≠ some net := by
  obtain ⟨_, _, _, _, _, _, _, hanswers⟩ := search_ends hsink pass net
  obtain ⟨answer, hanswer⟩ := hanswers hd
  refine ⟨answer, hanswer, ?_, ?_⟩
  · have hnone : answer = none ↔ c.searchUphill pass net sink = .ok none := by simp [hanswer]
    rw [hnone, searchUphill_eq_none_iff hsink]
    constructor
    · rintro hforeign ps hlisted hadmissible ⟨w, hw, hown⟩
      exact hforeign w ((ascent_iff.2 ⟨hw, hadmissible, hlisted⟩).uphill hd) hown
    · intro h w hw hown
      obtain ⟨ps, hps⟩ := hw.exists_ascent hd hsink
      obtain ⟨hstart, hadmissible, hlisted⟩ := ascent_iff.1 hps
      exact h ps hlisted hadmissible ⟨w, hstart, hown⟩
  · rintro path rfl
    obtain ⟨w, hown, hroute⟩ := searchUphill_route hd hsink hanswer
    obtain ⟨hstart, hadmissible, hlisted⟩ := ascent_iff.1 hroute.ascent
    obtain ⟨ws, hws, hnodup, hdriven⟩ := hroute.wiresAlong
    refine ⟨hlisted, hadmissible, ⟨w, hstart, hown⟩, ?_, w, ws, hws, ?_, hown,
      fun x hx => (hdriven x hx).1⟩
    · rintro ps hps hps' ⟨x, hx, hxown⟩
      exact length_le_of_searchUphill hd hsink hanswer (ascent_iff.2 ⟨hx, hps', hps⟩) hxown
    · exact List.nodup_cons.2 ⟨fun hw => (hdriven w hw).1 hown, hnodup⟩

/-- With the clock bound at its source, a search finds the pip from there to the sink. -/
theorem search_shortest_crossing : ∃ c path, Reachable crossing c ∧
    c.device.AdjacencyConsistent ∧ c.device.IsHandle (.tile 0 2) ∧
    c.searchUphill .clock 1 (.tile 0 2) = .ok (some path) ∧
    c.Admissible .clock 1 (.tile 0 2) path ∧ c.Complete 1 (.tile 0 2) path ∧
    ∀ ps, (∀ p ∈ ps, c.device.Listed p) → c.Admissible .clock 1 (.tile 0 2) ps →
      c.Complete 1 (.tile 0 2) ps → path.length ≤ ps.length := by
  have hrun : (do
      let c ← Act.performAll { device := crossing }
        (crossingActs ++ [.bindWire (.tile 0 1) 1 .locked])
      let found ← c.searchUphill .clock 1 (.tile 0 2)
      return decide (c.device.checkAdjacency = true ∧ found.isSome ∧
        c.device.canonicalWire ⟨0, 2⟩ = .ok (.tile 0 2))) = Except.ok true := by decide +kernel
  obtain ⟨c, hc, hrun⟩ := bind_eq_ok_iff.1 hrun
  obtain ⟨found, hfound, hrun⟩ := bind_eq_ok_iff.1 hrun
  obtain ⟨hadjacency, hsome, hhandle⟩ := of_decide_eq_true (Except.ok.inj hrun)
  have hd := Device.checkAdjacency_iff.1 hadjacency
  obtain ⟨answer, hanswer, -, hpath⟩ := search_shortest hd ⟨_, hhandle⟩ .clock 1
  obtain rfl : found = answer := Except.ok.inj (hfound.symm.trans hanswer)
  obtain ⟨path, rfl⟩ := Option.isSome_iff_exists.1 hsome
  obtain ⟨-, hadmissible, hcomplete, hleast, -⟩ := hpath path rfl
  exact ⟨c, path, Run.start.performAll (fun _ _ _ => trivial) hc, hd, ⟨_, hhandle⟩, hfound, hadmissible,
    hcomplete, hleast⟩

/-! A tile where a pip is listed at neither of its wires. -/

/-- Bel 0 drives wire 0, from where a pip drives wire 1, which feeds bel 1. -/
def unlistedRecord : ChipRecord where
  name := "xcvu"
  generator := ""
  width := 1
  height := 1
  knownIdCount := Known.count
  extraIds := #[]
  tileTypes := #[{
    typeName := 0
    bels := #[⟨0, Known.ident "BUFGCTRL", 0, none, false, #[⟨Known.ident "O", 0, .output⟩], none⟩,
      ⟨0, 0, 1, none, false, #[⟨Known.ident "CK", 1, .input⟩], none⟩]
    wires := #[⟨0, Known.ident "NODE_DEDICATED", none, #[], #[], #[]⟩,
      ⟨0, Known.ident "NODE_DEDICATED", none, #[], #[], #[]⟩]
    pips := #[⟨0, 1, none, none, .tile, none⟩] }]
  tiles := #[⟨"T", 0, #[], #[none, none]⟩]
  nodes := #[]
  timing := none

/-- A clock from bel 0 to bel 1, bound at its source. -/
def unlistedActs : List Act :=
  [.edit (.net "clk"), .edit (.cell "buf" (Known.ident "BUFGCTRL")), .edit (.cell "ff" 0),
   .edit (.port 0 (Known.ident "O") .output), .edit (.port 1 (Known.ident "CK") .input),
   .edit (.connect 0 (Known.ident "O") 0), .edit (.connect 1 (Known.ident "CK") 0),
   .bindBel ⟨0, 0⟩ 0 .strong, .bindBel ⟨0, 1⟩ 1 .strong, .bindWire (.tile 0 0) 0 .locked]

/-- The lists agree with the wires that pips drive, and a search never comes to the one pip that leads
from the wire of the net to the sink. -/
theorem unlisted_pip_missed : ∃ db d c, ChipDatabase.ofRecord unlistedRecord ⟨[]⟩ = .ok db ∧
    Device.ofDatabase db = .ok (.ok d) ∧ Reachable d c ∧ c.device.AdjacencyConsistent ∧
    c.sourceWire 0 = .ok (some (.tile 0 0)) ∧
    c.portWire ⟨1, Known.ident "CK"⟩ = .ok (some (.tile 0 1)) ∧
    c.Admissible .clock 0 (.tile 0 1) [⟨0, 0⟩] ∧ c.Complete 0 (.tile 0 1) [⟨0, 0⟩] ∧
    c.searchUphill .clock 0 (.tile 0 1) = .ok none := by
  have accepted : ChipDatabase.ofRecord unlistedRecord ⟨[]⟩ = .ok ⟨unlistedRecord, ⟨[]⟩, rfl⟩ := rfl
  have hopens : (do
      let opened ← Device.ofDatabase ⟨unlistedRecord, ⟨[]⟩, rfl⟩
      return opened.toOption.map fun d => decide ((do
        let c ← Act.performAll { device := d } unlistedActs
        return decide (c.device.checkAdjacency = true ∧ c.sourceWire 0 = .ok (some (.tile 0 0)) ∧
          c.portWire ⟨1, Known.ident "CK"⟩ = .ok (some (.tile 0 1)) ∧
          c.device.pipSrcWire ⟨0, 0⟩ = .ok (.tile 0 0) ∧ c.device.pipDstWire ⟨0, 0⟩ = .ok (.tile 0 1) ∧
          c.device.isBlacklisted ⟨0, 0⟩ = .ok false ∧ c.pipNet ⟨0, 0⟩ = none ∧
          c.device.wireIntent (.tile 0 0) = .ok (Known.ident "NODE_DEDICATED") ∧
          c.wireNet (.tile 0 0) = some 0 ∧
          c.searchUphill .clock 0 (.tile 0 1) = .ok none)) = Except.ok true)) =
        Except.ok (some true) := by decide +kernel
  obtain ⟨d, opens, hrun⟩ := Device.exists_of_check hopens
  obtain ⟨c, hc, hrun⟩ := bind_eq_ok_iff.1 (of_decide_eq_true hrun)
  obtain ⟨hadjacency, hsource, hport, hsrc, hdst, henabled, hfree, hintent, hown, hnone⟩ :=
    of_decide_eq_true (Except.ok.inj hrun)
  have hpassable : c.Passable .clock 0 ⟨0, 0⟩ := by
    refine ⟨henabled, by simp [hfree], .tile 0 0, _, hsrc, hintent, by decide +kernel, ?_⟩
    intro owner howner
    exact Option.some.inj (howner.symm.trans hown)
  have hadmissible : c.Admissible .clock 0 (.tile 0 1) [⟨0, 0⟩] :=
    ⟨by simpa using hdst, List.isChain_singleton _, by simpa using hpassable⟩
  exact ⟨_, d, c, accepted, opens, Run.start.performAll (fun _ _ _ => trivial) hc,
    Device.checkAdjacency_iff.1 hadjacency, hsource, hport, hadmissible, ⟨_, hsrc, hown⟩, hnone⟩

end Context
end Interconnect
