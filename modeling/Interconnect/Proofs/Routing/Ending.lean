import Interconnect.Proofs.Routing.Search
import Interconnect.Proofs.Routing.Tree
import Mathlib.Data.List.Nodup
import Mathlib.Data.List.Perm.Subperm
/-!
# Whether a search ends

The queue of a search takes in a wire when the wire is met, so no wire comes off it twice. The walk
back follows the pips to the wires that they drive, while the wires were met along the lists of pips
uphill. Where these agree the walk comes to the sink. Where they do not, it may go round in a circle.
-/
namespace Interconnect

/-! ### Walking back -/

/-- The pips that a walk follows from a wire, up to a wire that was met through none. -/
inductive Back (d : Device) (met : Std.ExtTreeMap WireId (Option PipId)) :
    WireId → List PipId → Prop
  | stop {w : WireId} : (∀ p, met[w]? ≠ some (some p)) → Back d met w []
  | pip {w x : WireId} {p : PipId} {ps : List PipId} : met[w]? = some (some p) →
      d.pipDstWire p = .ok x → Back d met x ps → Back d met w (p :: ps)

section Back

variable {d : Device} {met : Std.ExtTreeMap WireId (Option PipId)} {w : WireId} {ps qs : List PipId}

theorem Trail.back (h : Trail d met w ps) : Back d met w ps := by
  induction h with
  | start hw => exact .stop (by simp [hw])
  | pip hw hp _ ih => exact .pip hw hp ih

namespace Back

theorem unique (h : Back d met w ps) (h' : Back d met w qs) : ps = qs := by
  induction h generalizing qs with
  | stop hw =>
    cases h' with
    | stop => rfl
    | pip hw' => exact absurd hw' (hw _)
  | @pip w x p ps hw hp _ ih =>
    cases h' with
    | stop hw' => exact absurd hw (hw' p)
    | pip hw' hp' h' =>
      obtain rfl : p = _ := by simpa [hw] using hw'
      obtain rfl : x = _ := Except.ok.inj (hp.symm.trans hp')
      rw [ih h']

theorem exists_pip (h : ∀ path, ¬ Back d met w path) : ∃ p, met[w]? = some (some p) := by
  by_contra hstop
  exact h [] (.stop (not_exists.1 hstop))

/-- A walk that ends comes through every wire once: from a wire further on, less is left to go. -/
theorem exists_wires (h : Back d met w ps) :
    ∃ ws : List WireId, ws.length = ps.length ∧ ws.Nodup ∧
      ∀ x ∈ ws, x ∈ met ∧ ∃ qs, Back d met x qs ∧ qs.length ≤ ps.length := by
  induction h with
  | stop => exact ⟨[], rfl, List.nodup_nil, by simp⟩
  | @pip w x p ps hw hp hrest ih =>
    obtain ⟨ws, hlength, hnodup, hws⟩ := ih
    refine ⟨w :: ws, by simp [hlength], List.nodup_cons.2 ⟨fun hmem => ?_, hnodup⟩, ?_⟩
    · obtain ⟨_, qs, hback, hle⟩ := hws w hmem
      obtain rfl := hback.unique (.pip hw hp hrest)
      simp only [List.length_cons] at hle
      omega
    · intro y hy
      rcases List.mem_cons.1 hy with rfl | hy
      · refine ⟨?_, p :: ps, .pip hw hp hrest, Nat.le_refl _⟩
        simp [Std.ExtTreeMap.mem_iff_isSome_getElem?, hw]
      · obtain ⟨hmet, qs, hback, hle⟩ := hws y hy
        exact ⟨hmet, qs, hback, by simp only [List.length_cons]; omega⟩

theorem length_le (h : Back d met w ps) : ps.length ≤ met.size := by
  obtain ⟨ws, hlength, hnodup, hws⟩ := h.exists_wires
  have hsub : ws ⊆ met.keys := fun x hx => Std.ExtTreeMap.mem_keys.2 (hws x hx).1
  have hle := (hnodup.subperm hsub).length_le
  rwa [Std.ExtTreeMap.length_keys, hlength] at hle

end Back

end Back

namespace Context

variable {c : Context} {pass : Pass} {net : NetId} {sink w x y : WireId} {p : PipId}
  {pips path : List PipId} {rest pops : List WireId} {f g : Frontier}
  {found : Option (WireId × Frontier)} {met : Std.ExtTreeMap WireId (Option PipId)} {fuel : Nat}

theorem walkBack_of_back (h : Back c.device met w path) (hfuel : path.length ≤ fuel) :
    c.walkBack met fuel w = .ok path := by
  induction h generalizing fuel with
  | @stop w hstop =>
    rw [walkBack.eq_def]
    rcases hw : met[w]? with _ | _ | p
    · simp only [hw]
    · simp only [hw]
    · exact absurd hw (hstop p)
  | pip hw hp _ ih =>
    cases fuel with
    | zero => simp at hfuel
    | succ fuel =>
      have hrest := ih (Nat.le_of_succ_le_succ hfuel)
      rw [walkBack.eq_def]
      simp only [hw, hp, hrest, bind, Except.bind, pure, Except.pure]

theorem walkBack_endless
    (hpips : ∀ (w : WireId) p, met[w]? = some (some p) → ∃ x, c.device.pipDstWire p = .ok x)
    (h : ∀ path, ¬ Back c.device met w path) : c.walkBack met fuel w = .error .endless := by
  induction fuel generalizing w with
  | zero =>
    obtain ⟨p, hp⟩ := Back.exists_pip h
    rw [walkBack.eq_def]
    simp only [hp]
  | succ fuel ih =>
    obtain ⟨p, hp⟩ := Back.exists_pip h
    obtain ⟨x, hx⟩ := hpips w p hp
    have hrest := ih fun path hback => h (p :: path) (.pip hp hx hback)
    rw [walkBack.eq_def]
    simp only [hp, hx, hrest, bind, Except.bind]

/-! ### Visits -/

/-- The wires that a search takes off its queue, one after the other, and what it ends with. -/
inductive Visits (c : Context) (pass : Pass) (net : NetId) :
    Frontier → List WireId → Option (WireId × Frontier) → Prop
  | dry {f : Frontier} : f.queue = [] → Visits c pass net f [] none
  | found {f : Frontier} {w : WireId} {rest : List WireId} : f.queue = w :: rest →
      c.wireNet w = some net → Visits c pass net f [w] (some (w, f))
  | pass {f g : Frontier} {w : WireId} {rest pops : List WireId} {pips : List PipId}
      {found : Option (WireId × Frontier)} : f.queue = w :: rest → c.wireNet w ≠ some net →
      c.device.pipsUphill w = .ok pips →
      pips.foldlM (c.expandPip pass net) { f with queue := rest } = .ok g →
      Visits c pass net g pops found → Visits c pass net f (w :: pops) found

theorem exists_visits (h : c.visit pass net fuel f = .ok found) :
    ∃ pops, c.Visits pass net f pops found := by
  induction fuel generalizing f with
  | zero => simp [visit] at h
  | succ fuel ih =>
    rw [visit] at h
    cases hq : f.queue with
    | nil =>
      simp only [hq] at h
      obtain rfl := Except.ok.inj h
      exact ⟨[], .dry hq⟩
    | cons w rest =>
      simp only [hq] at h
      by_cases hnet : c.wireNet w = some net
      · rw [if_pos hnet] at h
        obtain rfl := Except.ok.inj h
        exact ⟨[w], .found hq hnet⟩
      · rw [if_neg hnet] at h
        obtain ⟨pips, hpips, h⟩ := bind_eq_ok_iff.1 h
        obtain ⟨g, hg, h⟩ := bind_eq_ok_iff.1 h
        obtain ⟨pops, hvisits⟩ := ih h
        exact ⟨w :: pops, .pass hq hnet hpips hg hvisits⟩

/-- The wires on the queue are handles that were met, each of them waits once, and every pip of the
trace passed for a leg. -/
structure Tidy (c : Context) (pass : Pass) (net : NetId) (f : Frontier) : Prop where
  nodup : f.queue.Nodup
  met : ∀ w ∈ f.queue, f.Met w
  handle : ∀ w ∈ f.queue, c.device.IsHandle w
  leg : ∀ (w : WireId) p, f.trace[w]? = some (some p) → c.Leg pass net w p

namespace Tidy

theorem start (hsink : c.device.IsHandle sink) : c.Tidy pass net (Frontier.start sink) := by
  constructor
  · exact List.nodup_singleton sink
  · intro w hw
    exact met_start_iff.2 (List.mem_singleton.1 hw)
  · intro w hw
    rwa [List.mem_singleton.1 hw]
  · intro w p hw
    rw [Frontier.start, getElem?_insert_ite] at hw
    split at hw <;> simp at hw

theorem meet (hf : c.Tidy pass net f) (hleg : c.Leg pass net x p) (hx : ¬ f.Met x) :
    c.Tidy pass net (f.meet x p) := by
  constructor
  · refine List.nodup_append.2 ⟨hf.nodup, List.nodup_singleton x, ?_⟩
    intro w hw y hy heq
    rw [List.mem_singleton.1 hy] at heq
    exact hx (heq ▸ hf.met w hw)
  · intro w hw
    rcases List.mem_append.1 hw with hw | hw
    · exact Frontier.met_meet_iff.2 (Or.inr (hf.met w hw))
    · exact Frontier.met_meet_iff.2 (Or.inl (List.mem_singleton.1 hw))
  · intro w hw
    rcases List.mem_append.1 hw with hw | hw
    · exact hf.handle w hw
    · rw [List.mem_singleton.1 hw]
      exact Device.isHandle_of_pipSrcWire hleg.src
  · intro w q hw
    rw [Frontier.meet, getElem?_insert_ite] at hw
    by_cases hwx : w = x
    · obtain rfl : p = q := by simpa [hwx] using hw
      exact hwx ▸ hleg
    · exact hf.leg w q (by simpa [hwx] using hw)

theorem round (hf : c.Tidy pass net f) (hq : f.queue = y :: rest)
    (hpips : c.device.pipsUphill y = .ok pips)
    (hg : pips.foldlM (c.expandPip pass net) { f with queue := rest } = .ok g) :
    c.Tidy pass net g ∧ (∀ w, f.Met w → g.Met w) ∧ ∀ w ∈ g.queue, w ∈ rest ∨ ¬ f.Met w := by
  have hrest : c.Tidy pass net { f with queue := rest } := by
    have hnodup := hf.nodup
    rw [hq] at hnodup
    exact ⟨hnodup.of_cons, fun w hw => hf.met w (by simp [hq, hw]),
      fun w hw => hf.handle w (by simp [hq, hw]), hf.leg⟩
  have hy := hf.handle y (by simp [hq])
  refine foldlM_keeps (I := fun g => c.Tidy pass net g ∧ (∀ w, f.Met w → g.Met w) ∧
    ∀ w ∈ g.queue, w ∈ rest ∨ ¬ f.Met w) ?_ ⟨hrest, fun _ h => h, fun _ => Or.inl⟩ hg
  rintro a p b hp ⟨ha, hmore, hnew⟩ hb
  rcases expandPip_cases ⟨y, pips, hy, hpips, hp⟩ hb with rfl | ⟨x, hleg, hx, rfl⟩
  · exact ⟨ha, hmore, hnew⟩
  · have hfresh : ¬ a.Met x := by
      simp [Frontier.Met, Std.ExtTreeMap.mem_iff_isSome_getElem?, hx]
    refine ⟨ha.meet hleg hfresh, ?_, ?_⟩
    · intro w hw
      exact Frontier.met_meet_iff.2 (Or.inr (hmore w hw))
    · intro w hw
      rcases List.mem_append.1 hw with hw | hw
      · exact hnew w hw
      · rw [List.mem_singleton.1 hw]
        exact Or.inr fun hmet => hfresh (hmore x hmet)

end Tidy

theorem Visits.tidy (h : c.Visits pass net f pops (some (w, g))) (hf : c.Tidy pass net f) :
    c.Tidy pass net g := by
  generalize hfound : some (w, g) = found at h
  induction h with
  | dry => cases hfound
  | found =>
    obtain ⟨rfl, rfl⟩ := Prod.mk.inj (Option.some.inj hfound)
    exact hf
  | pass hq _ hpips hg _ ih => exact ih (hf.round hq hpips hg).1 hfound

theorem Visits.nodup (h : c.Visits pass net f pops found) (hf : c.Tidy pass net f) :
    pops.Nodup ∧ ∀ w ∈ pops, w ∈ f.queue ∨ ¬ f.Met w := by
  induction h with
  | dry => exact ⟨List.nodup_nil, by simp⟩
  | found hq => exact ⟨List.nodup_singleton _, by simp [hq]⟩
  | @pass f g y rest pops pips found hq _ hpips hg _ ih =>
    obtain ⟨hg', hmore, hnew⟩ := hf.round hq hpips hg
    obtain ⟨hnodup, hpops⟩ := ih hg'
    have hlater : ∀ w ∈ pops, w ∈ rest ∨ ¬ f.Met w := by
      intro w hw
      rcases hpops w hw with hqueue | hunmet
      · exact hnew w hqueue
      · exact Or.inr fun hmet => hunmet (hmore w hmet)
    have hy := hf.nodup
    rw [hq] at hy
    refine ⟨List.nodup_cons.2 ⟨fun hmem => ?_, hnodup⟩, ?_⟩
    · rcases hlater y hmem with hmem | hunmet
      · exact (List.nodup_cons.1 hy).1 hmem
      · exact hunmet (hf.met y (by simp [hq]))
    · intro w hw
      rcases List.mem_cons.1 hw with rfl | hw
      · exact Or.inl (by simp [hq])
      · exact (hlater w hw).imp_left fun hrest => by simp [hq, hrest]

/-! ### The whole search -/

/-- A search that stops at a wire answers with the pips that the walk back from there follows. -/
theorem searchUphill_of_back
    (h : c.visit pass net c.device.wireBound (.start sink) = .ok (some (w, f)))
    (hback : Back c.device f.trace w path) : c.searchUphill pass net sink = .ok (some path) := by
  have hwalk := walkBack_of_back hback hback.length_le
  simp only [searchUphill, h, hwalk, bind, Except.bind, pure, Except.pure]

/-- On every accepted device the visits end, and no wire comes off the queue twice. From the wire where
they stop the walk back takes no more steps than wires were met, and the search answers, or the walk
never ends. It ends where the pips listed uphill of a wire drive it. -/
theorem search_ends (hsink : c.device.IsHandle sink) (pass : Pass) (net : NetId) :
    ∃ pops found, c.Visits pass net (.start sink) pops found ∧ pops.Nodup ∧
      c.visit pass net c.device.wireBound (.start sink) = .ok found ∧
      (found = none → c.searchUphill pass net sink = .ok none) ∧
      (∀ w f, found = some (w, f) →
        (∃ path, Back c.device f.trace w path ∧ path.length ≤ f.trace.size ∧
          c.searchUphill pass net sink = .ok (some path)) ∨
        (∀ path, ¬ Back c.device f.trace w path) ∧
          (∀ fuel, c.walkBack f.trace fuel w = .error .endless) ∧
          c.searchUphill pass net sink = .error .endless) ∧
      (c.device.AdjacencyConsistent → ∃ answer, c.searchUphill pass net sink = .ok answer) := by
  obtain ⟨found, hfound, _⟩ := answers_visit_start pass net hsink
  obtain ⟨pops, hvisits⟩ := exists_visits hfound
  have hdry : found = none → c.searchUphill pass net sink = .ok none := by
    rintro rfl
    rw [searchUphill, hfound]
    rfl
  refine ⟨pops, found, hvisits, (hvisits.nodup (.start hsink)).1, hfound, hdry, ?_, ?_⟩
  · rintro w f rfl
    by_cases hback : ∃ path, Back c.device f.trace w path
    · obtain ⟨path, hback⟩ := hback
      exact Or.inl ⟨path, hback, hback.length_le, searchUphill_of_back hfound hback⟩
    · have hnone := not_exists.1 hback
      have hwalk (fuel : Nat) : c.walkBack f.trace fuel w = .error .endless := by
        refine walkBack_endless (fun x p hp => ?_) hnone
        have hleg := (hvisits.tidy (.start hsink)).leg x p hp
        obtain ⟨y, hy, _⟩ := Device.answers_pipDstWire hleg.listed.hasPip
        exact ⟨y, hy⟩
      refine Or.inr ⟨hnone, hwalk, ?_⟩
      simp only [searchUphill, hfound, hwalk, bind, Except.bind]
  · intro hd
    rcases found with _ | ⟨w, f⟩
    · exact ⟨none, hdry rfl⟩
    · obtain ⟨hsound, hmet, _⟩ := visit_sound hd (sound_start hsink) hfound
      obtain ⟨path, htrail⟩ := hsound.trail w hmet
      exact ⟨some path, searchUphill_of_back hfound htrail.back⟩

theorem search_ends_crossing : ∃ c pops found, Reachable crossing c ∧
    c.device.IsHandle (.tile 0 2) ∧ c.Visits .clock 1 (.start (.tile 0 2)) pops found ∧
    pops.Nodup ∧ ∃ answer, c.searchUphill .clock 1 (.tile 0 2) = .ok answer := by
  have hrun : (do
      let c ← Act.performAll { device := crossing } crossingActs
      return decide (c.device.canonicalWire ⟨0, 2⟩ = .ok (.tile 0 2))) = Except.ok true := by
    decide +kernel
  obtain ⟨c, hc, hrun⟩ := bind_eq_ok_iff.1 hrun
  have hsink : c.device.IsHandle (.tile 0 2) := ⟨_, of_decide_eq_true (Except.ok.inj hrun)⟩
  obtain ⟨hreach, hd, _⟩ := crossing_ready hc
  obtain ⟨pops, found, hvisits, hnodup, _, _, _, hanswers⟩ := search_ends hsink .clock 1
  exact ⟨c, pops, found, hreach, hsink, hvisits, hnodup, hanswers hd⟩

/-! A tile where two pips drive each other's wires. -/

/-- Wire 0 is joined to both of the other wires, which are also nodes of their own, so both pips are
listed uphill of the node of wire 0 and drive another node. Bel 0 drives wire 1, and bel 1 is fed by
wire 0. -/
def ringRecord : ChipRecord where
  name := "xcvu"
  generator := ""
  width := 1
  height := 1
  knownIdCount := Known.count
  extraIds := #[]
  tileTypes := #[{
    typeName := 0
    bels := #[⟨0, Known.ident "BUFGCTRL", 0, none, false, #[⟨Known.ident "O", 1, .output⟩], none⟩,
      ⟨0, 0, 1, none, false, #[⟨Known.ident "CK", 0, .input⟩], none⟩]
    wires := #[⟨0, 0, none, #[], #[], #[]⟩, ⟨0, 0, none, #[1], #[0], #[]⟩,
      ⟨0, 0, none, #[0], #[1], #[]⟩]
    pips := #[⟨1, 2, none, none, .tile, none⟩, ⟨2, 1, none, none, .tile, none⟩] }]
  tiles := #[⟨"T", 0, #[], #[some 0, some 1, some 2]⟩]
  nodes := #[⟨Known.ident "NODE_DEDICATED", #[⟨0, 0⟩, ⟨0, 1⟩, ⟨0, 2⟩]⟩,
    ⟨Known.ident "NODE_DEDICATED", #[⟨0, 1⟩]⟩, ⟨Known.ident "NODE_DEDICATED", #[⟨0, 2⟩]⟩]
  timing := none

/-- A clock from bel 0 to bel 1, bound at its source. -/
def ringActs : List Act :=
  [.edit (.net "clk"), .edit (.cell "buf" (Known.ident "BUFGCTRL")), .edit (.cell "ff" 0),
   .edit (.port 0 (Known.ident "O") .output), .edit (.port 1 (Known.ident "CK") .input),
   .edit (.connect 0 (Known.ident "O") 0), .edit (.connect 1 (Known.ident "CK") 0),
   .bindBel ⟨0, 0⟩ 0 .strong, .bindBel ⟨0, 1⟩ 1 .strong, .bindWire (.node 1) 0 .locked]

/-- From the source the pips of the trace lead round and round, and never to the sink. -/
theorem ring_endless : ∃ db d c w f, ChipDatabase.ofRecord ringRecord ⟨[]⟩ = .ok db ∧
    Device.ofDatabase db = .ok (.ok d) ∧ Reachable d c ∧ c.sourceWire 0 = .ok (some (.node 1)) ∧
    c.portWire ⟨1, Known.ident "CK"⟩ = .ok (some (.node 0)) ∧
    c.visit .clock 0 c.device.wireBound (.start (.node 0)) = .ok (some (w, f)) ∧
    (∀ path, ¬ Back c.device f.trace w path) ∧
    c.searchUphill .clock 0 (.node 0) = .error .endless := by
  have accepted : ChipDatabase.ofRecord ringRecord ⟨[]⟩ = .ok ⟨ringRecord, ⟨[]⟩, rfl⟩ := rfl
  have hopens : (do
      let opened ← Device.ofDatabase ⟨ringRecord, ⟨[]⟩, rfl⟩
      return opened.toOption.map fun d => (do
        let c ← Act.performAll { device := d } ringActs
        let found ← c.visit .clock 0 c.device.wireBound (.start (.node 0))
        return decide (c.sourceWire 0 = .ok (some (.node 1)) ∧
          c.portWire ⟨1, Known.ident "CK"⟩ = .ok (some (.node 0)) ∧ found.isSome ∧
          c.searchUphill .clock 0 (.node 0) = .error .endless) : Query Bool)) =
        Except.ok (some (Except.ok true)) := by decide +kernel
  obtain ⟨opened, hopened, hopens⟩ := bind_eq_ok_iff.1 hopens
  obtain ⟨d, hd, hrun⟩ := Option.map_eq_some_iff.1 (Except.ok.inj hopens)
  obtain ⟨c, hc, hrun⟩ := bind_eq_ok_iff.1 hrun
  obtain ⟨found, hfound, hrun⟩ := bind_eq_ok_iff.1 hrun
  obtain ⟨hsource, hport, hsome, hendless⟩ := of_decide_eq_true (Except.ok.inj hrun)
  obtain ⟨⟨w, f⟩, rfl⟩ := Option.isSome_iff_exists.1 hsome
  have hdevice : Device.ofDatabase ⟨ringRecord, ⟨[]⟩, rfl⟩ = .ok (.ok d) := by
    cases opened with
    | error e => cases hd
    | ok d' =>
      obtain rfl := Option.some.inj hd
      exact hopened
  refine ⟨_, d, c, w, f, accepted, hdevice, Run.start.performAll (fun _ _ _ => trivial) hc, hsource,
    hport, hfound, fun path hback => ?_, hendless⟩
  rw [searchUphill_of_back hfound hback] at hendless
  cases hendless

end Context
end Interconnect
