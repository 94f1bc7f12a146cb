import Interconnect.Proofs.Ownership.Operation
import Interconnect.Routing.Search
/-!
# Paths that a search finds

A search meets each wire once, through a pip that drives a wire met before. Walking back from the
wire where it ends therefore gives the pips down to the sink, each from the wire that the one before
it drives, and no wire is driven twice. Only the first of the wires is the net's own.
-/
namespace Interconnect

namespace Device

variable {d : Device} {w : WireId} {p : PipId}

/-- Whether a wire is what some wire of a tile is handed out as. -/
def IsHandle (d : Device) (w : WireId) : Prop := ∃ m, d.canonicalWire m = .ok w

/-- Every pip that is listed uphill of a wire drives it. -/
def AdjacencyConsistent (d : Device) : Prop :=
  ∀ w pips, d.IsHandle w → d.pipsUphill w = .ok pips → ∀ p ∈ pips, d.pipDstWire p = .ok w

def Listed (d : Device) (p : PipId) : Prop :=
  ∃ w pips, d.IsHandle w ∧ d.pipsUphill w = .ok pips ∧ p ∈ pips

theorem isHandle_of_pipSrcWire (h : d.pipSrcWire p = .ok w) : d.IsHandle w := by
  obtain ⟨entry, _, h⟩ := bind_eq_ok_iff.1 h
  exact ⟨_, h⟩

theorem isHandle_of_belPinWire {b : BelId} {pin : Ident} (h : d.belPinWire b pin = .ok (some w)) :
    d.IsHandle w := by
  obtain ⟨entry, _, h⟩ := bind_eq_ok_iff.1 h
  cases entry with
  | none => simp [pure, Except.pure] at h
  | some entry =>
    obtain ⟨x, hx, h⟩ := bind_eq_ok_iff.1 h
    obtain rfl : x = w := Option.some.inj (Except.ok.inj h)
    exact ⟨_, hx⟩

def handles (d : Device) : List WireId :=
  d.record.tiles.toList.zipIdx.flatMap fun (tile, t) =>
    (List.range tile.wireToNode.size).filterMap fun i => (d.canonicalWire ⟨t, i⟩).toOption

theorem mem_handles_iff : w ∈ d.handles ↔ d.IsHandle w := by
  simp only [handles, List.mem_flatMap, List.mem_filterMap, Prod.exists, List.mem_range]
  constructor
  · rintro ⟨tile, t, _, i, _, hw⟩
    cases hcanonical : d.canonicalWire ⟨t, i⟩ with
    | error f => simp [hcanonical, Except.toOption] at hw
    | ok x =>
      obtain rfl : x = w := by simpa [hcanonical, Except.toOption] using hw
      exact ⟨_, hcanonical⟩
  · rintro ⟨m, hm⟩
    obtain ⟨tile, htile, h⟩ := bind_eq_ok_iff.1 hm
    obtain ⟨entry, hentry, _⟩ := bind_eq_ok_iff.1 h
    refine ⟨tile, m.tile, ?_, m.index, lt_size_of_fetch hentry, by rw [hm]; rfl⟩
    rw [List.mk_mem_zipIdx_iff_getElem?, Array.getElem?_toList]
    exact fetch_eq_ok_iff.1 htile

/-- A check of every handle for `AdjacencyConsistent`. -/
def checkAdjacency (d : Device) : Bool :=
  d.handles.all fun w => match d.pipsUphill w with
    | .ok pips => pips.all fun p => d.pipDstWire p = .ok w
    | .error _ => true

theorem checkAdjacency_iff : d.checkAdjacency = true ↔ d.AdjacencyConsistent := by
  simp only [checkAdjacency, AdjacencyConsistent, List.all_eq_true, mem_handles_iff]
  constructor
  · intro h w pips hw hpips p hp
    have hall := h w hw
    rw [hpips] at hall
    exact of_decide_eq_true (List.all_eq_true.1 hall p hp)
  · intro h w hw
    cases hpips : d.pipsUphill w with
    | error f => rfl
    | ok pips => exact List.all_eq_true.2 fun p hp => decide_eq_true (h w pips hw hpips p hp)

end Device

namespace Context

variable {c c' : Context} {pass : Pass} {net : NetId} {sink w x : WireId} {p q : PipId}
  {ps : List PipId}

theorem isHandle_of_portWire {port : PortRef} (h : c.portWire port = .ok (some w)) :
    c.device.IsHandle w := by
  obtain ⟨cell, _, h⟩ := bind_eq_ok_iff.1 h
  cases hb : cell.bel with
  | none => simp [hb, pure, Except.pure] at h
  | some b => exact Device.isHandle_of_belPinWire (by simpa [hb] using h)

theorem admits_of_own (h : c.wireNet w = some net) (s : Strength) :
    (c.wireBinding w).admits net s = true := by
  rw [Binding.admits_eq_true_iff]
  intro held hheld
  rw [wireNet, hheld] at h
  exact Or.inl (Option.some.inj h)

theorem isPipFreeFor_eq_true_iff : c.isPipFreeFor p net = .ok true ↔
    c.device.isBlacklisted p = .ok false ∧ ∀ n, c.pipNet p = some n → n = net := by
  rw [isPipFreeFor]
  cases c.device.isBlacklisted p with
  | error f => simp [bind, Except.bind]
  | ok listed => simp [bind, Except.bind, pure, Except.pure, Option.all_eq_true]

/-- What a search asks of a pip that it follows up to a wire. -/
structure Leg (c : Context) (pass : Pass) (net : NetId) (w : WireId) (p : PipId) : Prop where
  listed : c.device.Listed p
  src : c.device.pipSrcWire p = .ok w
  free : c.isPipFreeFor p net = .ok true
  intent : ∃ i, c.device.wireIntent w = .ok i ∧ pass.admitsIntent i = true
  unheld : (c.wireBinding w).heldByOther net = false

/-- The pips from a wire down to the sink: each leaves the wire that the one before it drives. None
of the wires that they drive is the net's, only the sink may be another net's, and none of them is
driven twice. -/
def Route (c : Context) (pass : Pass) (net : NetId) (sink : WireId) : WireId → List PipId → Prop
  | w, [] => w = sink
  | w, p :: ps => c.Leg pass net w p ∧ ∃ x, c.device.pipDstWire p = .ok x ∧
      c.wireNet x ≠ some net ∧ (x = sink ∨ c.wireBinding x = none) ∧
      (∀ q ∈ ps, c.device.pipDstWire q ≠ .ok x) ∧ Route c pass net sink x ps

theorem Route.intent (h : c.Route pass net sink w ps) :
    w = sink ∨ ∃ i, c.device.wireIntent w = .ok i ∧ pass.admitsIntent i = true := by
  cases ps with
  | nil => exact Or.inl h
  | cons p ps => exact Or.inr h.1.intent

theorem Route.granted (hc : c.Coherent) (hw : c.wireNet w = some net)
    (hadm : (c.wireBinding sink).admits net pass.strength = true)
    (h : c.Route pass net sink w (p :: ps)) :
    c.pipBinding p = none ∧ ∃ c', c.bindPip p net pass.strength = .ok (.ok c') := by
  obtain ⟨hleg, x, hx, hforeign, hfree, -, -⟩ := h
  obtain ⟨hbl, hown⟩ := isPipFreeFor_eq_true_iff.1 hleg.free
  have hpip : c.pipBinding p = none := by
    by_contra hb
    obtain ⟨held, hb⟩ := Option.ne_none_iff_exists'.1 hb
    have hheld : c.pipNet p = some held.net := by rw [pipNet, hb]; rfl
    -- the net would hold the pip, and with it the wire that the pip drives
    rw [hown _ hheld] at hheld
    obtain ⟨y, hy⟩ := (hc.pip_iff p net).1 hheld
    rw [hc.eq_of_leads hy hx, hc.drivingPip_eq_none hforeign] at hy
    cases hy
  refine ⟨hpip, bindPip_of_free hbl hx hpip ?_ (hc.lt_size hw)⟩
  rcases hfree with rfl | hfree
  · exact hadm
  · rw [hfree]
    rfl

end Context

/-! ### The wires that were met -/

/-- The pips that lead from a wire back to where a trace starts. -/
inductive Trail (d : Device) (met : Std.ExtTreeMap WireId (Option PipId)) :
    WireId → List PipId → Prop
  | start {w : WireId} : met[w]? = some none → Trail d met w []
  | pip {w x : WireId} {p : PipId} {ps : List PipId} : met[w]? = some (some p) →
      d.pipDstWire p = .ok x → Trail d met x ps → Trail d met w (p :: ps)

namespace Trail

variable {d : Device} {met : Std.ExtTreeMap WireId (Option PipId)} {w x : WireId} {p : PipId}
  {ps qs : List PipId}

theorem met_ne_none (h : Trail d met w ps) : met[w]? ≠ none := by
  cases h with
  | start h => simp [h]
  | pip h => simp [h]

theorem unique (h : Trail d met w ps) (h' : Trail d met w qs) : ps = qs := by
  induction h generalizing qs with
  | start hw =>
    cases h' with
    | start => rfl
    | pip hw' => simp [hw] at hw'
  | @pip w x p ps hw hp _ ih =>
    cases h' with
    | start hw' => simp [hw] at hw'
    | pip hw' hp' h' =>
      obtain rfl : p = _ := by simpa [hw] using hw'
      obtain rfl : x = _ := Except.ok.inj (hp.symm.trans hp')
      rw [ih h']

theorem after (h : Trail d met w (ps ++ p :: qs)) (hp : d.pipDstWire p = .ok x) :
    Trail d met x qs := by
  induction ps generalizing w with
  | nil =>
    cases h with
    | pip _ hp' h =>
      obtain rfl : x = _ := Except.ok.inj (hp.symm.trans hp')
      exact h
  | cons r ps ih =>
    cases h with
    | pip _ _ h => exact ih h

theorem ne_start (h : Trail d met w ps) (hp : p ∈ ps) : d.pipDstWire p ≠ .ok w := by
  intro hw
  obtain ⟨before, rest, rfl⟩ := List.append_of_mem hp
  have heq := congrArg List.length (h.unique (h.after hw))
  simp only [List.length_append, List.length_cons] at heq
  omega

theorem insert {y : WireId} {entry : Option PipId} (h : Trail d met w ps) (hy : met[y]? = none) :
    Trail d (met.insert y entry) w ps := by
  induction h with
  | start hw =>
    refine start ?_
    rw [getElem?_insert_ite, if_neg, hw]
    rintro rfl
    simp [hw] at hy
  | pip hw hp _ ih =>
    refine pip ?_ hp ih
    rw [getElem?_insert_ite, if_neg, hw]
    rintro rfl
    simp [hw] at hy

end Trail

/-- What holds of a search at every moment. -/
structure Frontier.Sound (c : Context) (pass : Pass) (net : NetId) (sink : WireId)
    (f : Frontier) : Prop where
  start : ∀ w : WireId, f.trace[w]? = some none → w = sink
  leg : ∀ (w : WireId) p, f.trace[w]? = some (some p) → c.Leg pass net w p
  foreign : ∀ (w : WireId) p x, f.trace[w]? = some (some p) → c.device.pipDstWire p = .ok x →
    c.wireNet x ≠ some net
  trail : ∀ w : WireId, f.trace[w]? ≠ none → ∃ ps, Trail c.device f.trace w ps
  handle : ∀ w : WireId, f.trace[w]? ≠ none → c.device.IsHandle w
  queue : ∀ w ∈ f.queue, f.trace[w]? ≠ none

namespace Context

variable {c c' : Context} {pass : Pass} {net : NetId} {sink w x : WireId} {p q : PipId}
  {ps : List PipId} {f f' : Frontier}

theorem sound_start (h : c.device.IsHandle sink) : (Frontier.start sink).Sound c pass net sink := by
  have htrace (w : WireId) : (Frontier.start sink).trace[w]? = if w = sink then some none else none := by
    rw [Frontier.start, getElem?_insert_ite]
    rfl
  refine ⟨?_, ?_, ?_, ?_, ?_, ?_⟩
  · intro w hw
    by_contra hne
    simp [htrace, hne] at hw
  · intro w p hw
    by_cases hs : w = sink <;> simp [htrace, hs] at hw
  · intro w p x hw
    by_cases hs : w = sink <;> simp [htrace, hs] at hw
  · intro w hw
    obtain rfl : w = sink := by
      by_contra hne
      simp [htrace, hne] at hw
    exact ⟨[], .start (by simp [htrace])⟩
  · intro w hw
    obtain rfl : w = sink := by
      by_contra hne
      simp [htrace, hne] at hw
    exact h
  · intro w hw
    obtain rfl : w = sink := by simpa [Frontier.start] using hw
    simp [htrace]

theorem sound_meet (hf : f.Sound c pass net sink) (hleg : c.Leg pass net x p)
    (hp : c.device.pipDstWire p = .ok w) (hw : f.trace[w]? ≠ none) (hnet : c.wireNet w ≠ some net)
    (hx : f.trace[x]? = none) : (f.meet x p).Sound c pass net sink := by
  have htrace (y : WireId) : (f.meet x p).trace[y]? = if y = x then some (some p) else f.trace[y]? :=
    getElem?_insert_ite f.trace x y (some p)
  refine ⟨?_, ?_, ?_, ?_, ?_, ?_⟩
  · intro y hy
    by_cases hyx : y = x
    · simp [htrace, hyx] at hy
    · exact hf.start y (by simpa [htrace, hyx] using hy)
  · intro y q hy
    by_cases hyx : y = x
    · obtain rfl : p = q := by simpa [htrace, hyx] using hy
      exact hyx ▸ hleg
    · exact hf.leg y q (by simpa [htrace, hyx] using hy)
  · intro y q z hy hz
    by_cases hyx : y = x
    · obtain rfl : p = q := by simpa [htrace, hyx] using hy
      obtain rfl : w = z := Except.ok.inj (hp.symm.trans hz)
      exact hnet
    · exact hf.foreign y q z (by simpa [htrace, hyx] using hy) hz
  · intro y hy
    by_cases hyx : y = x
    · obtain ⟨ps, htrail⟩ := hf.trail w hw
      exact ⟨p :: ps, .pip (by simp [htrace, hyx]) hp (htrail.insert hx)⟩
    · obtain ⟨ps, htrail⟩ := hf.trail y (by simpa [htrace, hyx] using hy)
      exact ⟨ps, htrail.insert hx⟩
  · intro y hy
    by_cases hyx : y = x
    · exact hyx ▸ Device.isHandle_of_pipSrcWire hleg.src
    · exact hf.handle y (by simpa [htrace, hyx] using hy)
  · intro y hy
    rcases List.mem_append.1 hy with hy | hy
    · by_cases hyx : y = x
      · simp [htrace, hyx]
      · simpa [htrace, hyx] using hf.queue y hy
    · obtain rfl : y = x := by simpa using hy
      simp [htrace]

theorem expandPip_cases (hlisted : c.device.Listed p) (h : c.expandPip pass net f p = .ok f') :
    f' = f ∨ ∃ x, c.Leg pass net x p ∧ f.trace[x]? = none ∧ f' = f.meet x p := by
  obtain ⟨free, hfree, h⟩ := bind_eq_ok_iff.1 h
  cases free with
  | false => exact Or.inl (Except.ok.inj h).symm
  | true =>
  obtain ⟨x, hx, h⟩ := bind_eq_ok_iff.1 h
  by_cases hmet : f.trace.contains x = true
  · rw [if_pos hmet] at h
    exact Or.inl (Except.ok.inj h).symm
  rw [if_neg hmet] at h
  obtain ⟨i, hi, h⟩ := bind_eq_ok_iff.1 h
  by_cases hadm : pass.admitsIntent i = true
  · rw [if_neg (by simp [hadm])] at h
    by_cases ho : (c.wireBinding x).heldByOther net = true
    · rw [if_pos ho] at h
      exact Or.inl (Except.ok.inj h).symm
    · rw [if_neg ho] at h
      refine Or.inr ⟨x, ⟨hlisted, hx, hfree, ⟨i, hi, hadm⟩, by simpa using ho⟩, ?_,
        (Except.ok.inj h).symm⟩
      simpa using hmet
  · rw [if_pos (by simpa using hadm)] at h
    exact Or.inl (Except.ok.inj h).symm

theorem visit_sound (hd : c.device.AdjacencyConsistent) {fuel : Nat}
    (hf : f.Sound c pass net sink) (h : c.visit pass net fuel f = .ok (some (w, f'))) :
    f'.Sound c pass net sink ∧ f'.trace[w]? ≠ none ∧ c.wireNet w = some net := by
  induction fuel generalizing f with
  | zero => simp [visit] at h
  | succ fuel ih =>
    rw [visit] at h
    cases hq : f.queue with
    | nil => simp [hq] at h
    | cons y rest =>
      have hy : f.trace[y]? ≠ none := hf.queue y (by simp [hq])
      simp only [hq] at h
      by_cases hnet : c.wireNet y = some net
      · rw [if_pos hnet] at h
        obtain ⟨rfl, rfl⟩ : y = w ∧ f = f' := by simpa using h
        exact ⟨hf, hy, hnet⟩
      · rw [if_neg hnet] at h
        obtain ⟨pips, hpips, h⟩ := bind_eq_ok_iff.1 h
        obtain ⟨g, hg, h⟩ := bind_eq_ok_iff.1 h
        refine ih ?_ h
        have hdst := hd y pips (hf.handle y hy) hpips
        have hrest : ({ f with queue := rest } : Frontier).Sound c pass net sink :=
          ⟨hf.start, hf.leg, hf.foreign, hf.trail, hf.handle,
            fun z hz => hf.queue z (by simp [hq, hz])⟩
        refine (foldlM_keeps (I := fun g => g.Sound c pass net sink ∧ g.trace[y]? ≠ none)
          ?_ ⟨hrest, hy⟩ hg).1
        rintro a p b hp ⟨ha, hay⟩ hb
        rcases expandPip_cases ⟨y, pips, hf.handle y hy, hpips, hp⟩ hb with rfl | ⟨x, hleg, hx, rfl⟩
        · exact ⟨ha, hay⟩
        · refine ⟨sound_meet ha hleg (hdst p hp) hay hnet hx, ?_⟩
          rw [Frontier.meet, getElem?_insert_ite]
          by_cases hyx : y = x
          · simp [hyx]
          · simpa [hyx] using hay

theorem walkBack_eq {met : Std.ExtTreeMap WireId (Option PipId)} {fuel : Nat}
    {path : List PipId} (ht : Trail c.device met w ps) (h : c.walkBack met fuel w = .ok path) :
    path = ps := by
  induction ht generalizing fuel path with
  | start hw =>
    rw [walkBack.eq_def] at h
    simpa [hw, eq_comm] using h
  | @pip w x p ps hw hp _ ih =>
    rw [walkBack.eq_def] at h
    simp only [hw] at h
    cases fuel with
    | zero => simp at h
    | succ fuel =>
      obtain ⟨y, hy, hback⟩ := bind_eq_ok_iff.1 h
      obtain rfl : x = y := Except.ok.inj (hp.symm.trans hy)
      obtain ⟨rest, hrest, h⟩ := bind_eq_ok_iff.1 hback
      rw [← Except.ok.inj h, ih hrest]

theorem route_of_trail (hf : f.Sound c pass net sink) (h : Trail c.device f.trace w ps) :
    c.Route pass net sink w ps := by
  induction h with
  | start hw => exact hf.start _ hw
  | @pip w x p ps hw hp ht ih =>
    have hforeign := hf.foreign w p x hw hp
    refine ⟨hf.leg w p hw, x, hp, hforeign, ?_, fun q hq => ht.ne_start hq, ih⟩
    -- a wire that was met through a pip is no other net's, and this one is not the net's either
    cases hx : f.trace[x]? with
    | none => exact absurd hx ht.met_ne_none
    | some entry =>
      cases entry with
      | none => exact Or.inl (hf.start x hx)
      | some q =>
        have hunheld := (hf.leg x q hx).unheld
        cases hb : c.wireBinding x with
        | none => exact Or.inr rfl
        | some held =>
          have hown : held.net = net := by simpa [Binding.heldByOther, hb] using hunheld
          exact absurd (by rw [wireNet, hb, ← hown]; rfl) hforeign

/-- What a search answers with is a route from a wire of the net. -/
theorem searchUphill_route (hd : c.device.AdjacencyConsistent) (hsink : c.device.IsHandle sink)
    {path : List PipId} (h : c.searchUphill pass net sink = .ok (some path)) :
    ∃ w, c.wireNet w = some net ∧ c.Route pass net sink w path := by
  obtain ⟨found, hv, h⟩ := bind_eq_ok_iff.1 h
  cases found with
  | none => simp [pure, Except.pure] at h
  | some found =>
    obtain ⟨w, f⟩ := found
    obtain ⟨back, hb, h⟩ := bind_eq_ok_iff.1 h
    obtain rfl : back = path := Option.some.inj (Except.ok.inj h)
    obtain ⟨hf, hw, hnet⟩ := visit_sound hd (sound_start hsink) hv
    obtain ⟨ps, ht⟩ := hf.trail w hw
    rw [walkBack_eq ht hb]
    exact ⟨w, hnet, route_of_trail hf ht⟩

end Context
end Interconnect
