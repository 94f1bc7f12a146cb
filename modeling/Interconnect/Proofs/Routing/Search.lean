import Interconnect.Proofs.Device.Range
import Interconnect.Proofs.Routing.Path
import Mathlib.Algebra.Order.BigOperators.Group.List
import Mathlib.Algebra.Order.Ring.Nat
/-!
# When a search finds nothing

A search always comes to an end: every visit takes a wire off the queue, and only wires that were
never met are put onto it. When the queue runs dry, every wire that legal steps lead up to was
visited, so none of them is the net's.
-/
namespace Interconnect

/-! ### Room for every wire -/

namespace Device

variable {d : Device} {w : WireId}

theorem hasMember_of_canonicalWire {m : TileWire} (h : d.canonicalWire m = .ok w) :
    d.HasMember m := by
  obtain ⟨tile, htile, h⟩ := bind_eq_ok_iff.1 h
  obtain ⟨node, hnode, -⟩ := bind_eq_ok_iff.1 h
  obtain ⟨tile', tt, entry⟩ := exists_tileEntry (lt_size_of_fetch htile)
  obtain rfl : tile' = tile := Except.ok.inj (entry.found.symm.trans htile)
  exact ⟨tt, entry.typed, entry.fits.wires ▸ lt_size_of_fetch hnode⟩

theorem IsHandle.hasWire (h : d.IsHandle w) : d.HasWire w := by
  obtain ⟨m, hm⟩ := h
  obtain ⟨x, hx, hwire⟩ := answers_canonicalWire (hasMember_of_canonicalWire hm)
  obtain rfl : x = w := Except.ok.inj (hx.symm.trans hm)
  exact hwire

theorem Listed.hasPip {p : PipId} (h : d.Listed p) : d.HasPip p := by
  obtain ⟨w, pips, hw, hpips, hp⟩ := h
  obtain ⟨found, hfound, hall⟩ := answers_pipsUphill hw.hasWire
  obtain rfl : found = pips := Except.ok.inj (hfound.symm.trans hpips)
  exact hall p hp

theorem length_handles_lt (d : Device) : d.handles.length + 1 < d.wireBound := by
  have hsum : d.record.tiles.foldl (fun n tile => n + tile.wireToNode.size) 0 =
      (d.record.tiles.toList.zipIdx.map fun p => p.1.wireToNode.size).sum := by
    rw [← Array.foldl_toList, ← List.zipIdx_map_fst 0 d.record.tiles.toList, List.foldl_map,
      List.sum_eq_foldl, List.foldl_map, List.zipIdx_map_fst]
  have hle : d.handles.length ≤
      (d.record.tiles.toList.zipIdx.map fun p => p.1.wireToNode.size).sum := by
    rw [handles, List.length_flatMap]
    refine List.sum_le_sum fun p _ => ?_
    refine Nat.le_trans (List.length_filterMap_le _ _) ?_
    rw [List.length_range]
  rw [wireBound, hsum]
  omega

end Device

/-! ### One round of a search -/

namespace Frontier

variable {f f' : Frontier} {w x : WireId} {p : PipId}

def Met (f : Frontier) (w : WireId) : Prop := w ∈ f.trace

theorem met_meet_iff : (f.meet x p).Met w ↔ w = x ∨ f.Met w := by
  rw [Met, meet, Std.ExtTreeMap.mem_insert, Std.compare_eq_iff_eq, eq_comm]
  rfl

/-- The wires on the queue, and those that may still be put onto it. -/
def work (d : Device) (f : Frontier) : Nat :=
  f.queue.length + (d.handles.filter (· ∉ f.trace)).length

theorem work_meet_le {d : Device} (hx : d.IsHandle x) (hmet : ¬ f.Met x) :
    (f.meet x p).work d ≤ f.work d := by
  have hfewer : d.handles.filter (· ∉ (f.meet x p).trace) =
      (d.handles.filter (· ∉ f.trace)).filter (· ≠ x) := by
    rw [List.filter_filter]
    refine List.filter_congr fun w _ => ?_
    have hiff : w ∈ (f.meet x p).trace ↔ w = x ∨ w ∈ f.trace := met_meet_iff
    simp [hiff]
  have hmem : x ∈ d.handles.filter (· ∉ f.trace) :=
    List.mem_filter.2 ⟨Device.mem_handles_iff.2 hx, decide_eq_true hmet⟩
  have hlt : ((d.handles.filter (· ∉ f.trace)).filter (· ≠ x)).length <
      (d.handles.filter (· ∉ f.trace)).length :=
    List.length_filter_lt_length_iff_exists.2 ⟨x, hmem, by simp⟩
  rw [work, work, hfewer, meet, List.length_append, List.length_singleton]
  omega

end Frontier

namespace Context

variable {c : Context} {pass : Pass} {net : NetId} {sink w x y : WireId} {p : PipId}
  {pips : List PipId} {rest : List WireId} {f f' f'' g : Frontier}

/-- The wires that a search from a sink may come to, step by legal step. -/
inductive Uphill (c : Context) (pass : Pass) (net : NetId) (sink : WireId) : WireId → Prop
  | start : Uphill c pass net sink sink
  | step {w x : WireId} {pips : List PipId} {p : PipId} : Uphill c pass net sink w →
    c.device.pipsUphill w = .ok pips → p ∈ pips → c.Leg pass net x p → Uphill c pass net sink x

theorem Uphill.isHandle (h : c.Uphill pass net sink w) (hsink : c.device.IsHandle sink) :
    c.device.IsHandle w := by
  cases h with
  | start => exact hsink
  | step _ _ _ hleg => exact Device.isHandle_of_pipSrcWire hleg.src

/-- From one frontier to the other a search has looked behind certain pips. -/
structure Expands (c : Context) (pass : Pass) (net : NetId) (pips : List PipId)
    (f f' : Frontier) : Prop where
  met : ∀ w, f.Met w → f'.Met w
  waits : ∀ w ∈ f.queue, w ∈ f'.queue
  fresh : ∀ w, f'.Met w → f.Met w ∨ w ∈ f'.queue
  queued : ∀ w ∈ f'.queue, w ∈ f.queue ∨ ∃ p ∈ pips, c.Leg pass net w p
  leg : ∀ p ∈ pips, ∀ x, c.Leg pass net x p → f'.Met x
  work : f'.work c.device ≤ f.work c.device

theorem Expands.refl (c : Context) (pass : Pass) (net : NetId) (f : Frontier) :
    c.Expands pass net [] f f :=
  ⟨fun _ h => h, fun _ h => h, fun _ => Or.inl, fun _ => Or.inl, by simp, Nat.le_refl _⟩

theorem Expands.trans (h : c.Expands pass net [p] f f') (h' : c.Expands pass net pips f' f'') :
    c.Expands pass net (p :: pips) f f'' where
  met w hw := h'.met w (h.met w hw)
  waits w hw := h'.waits w (h.waits w hw)
  fresh w hw := by
    rcases h'.fresh w hw with hmet | hqueue
    · exact (h.fresh w hmet).imp_right (h'.waits w)
    · exact Or.inr hqueue
  queued w hw := by
    rcases h'.queued w hw with hqueue | ⟨q, hq, hleg⟩
    · refine (h.queued w hqueue).imp_right fun ⟨q, hq, hleg⟩ => ⟨q, ?_, hleg⟩
      simp [List.mem_singleton.1 hq]
    · exact Or.inr ⟨q, by simp [hq], hleg⟩
  leg q hq x hleg := by
    rcases List.mem_cons.1 hq with rfl | hq
    · exact h'.met x (h.leg q (by simp) x hleg)
    · exact h'.leg q hq x hleg
  work := Nat.le_trans h'.work h.work

theorem expandPip_of_leg (h : c.Leg pass net x p) :
    c.expandPip pass net f p = .ok (if x ∈ f.trace then f else f.meet x p) := by
  obtain ⟨i, hi, hadmits⟩ := h.intent
  simp only [expandPip, h.free, h.src, hi, hadmits, h.unheld, bind, Except.bind, pure, Except.pure]
  by_cases hmet : x ∈ f.trace <;> simp [hmet]

theorem answers_expandPip (hlisted : c.device.Listed p) :
    Answers (c.expandPip pass net f p) (c.Expands pass net [p] f) := by
  by_cases hleg : ∃ x, c.Leg pass net x p
  · obtain ⟨x, hleg⟩ := hleg
    have honly (y : WireId) (hy : c.Leg pass net y p) : y = x :=
      Except.ok.inj (hy.src.symm.trans hleg.src)
    refine ⟨_, expandPip_of_leg hleg, ?_⟩
    by_cases hmet : x ∈ f.trace
    · rw [if_pos hmet]
      refine ⟨fun _ h => h, fun _ h => h, fun _ => Or.inl, fun _ => Or.inl, ?_, Nat.le_refl _⟩
      intro q hq y hy
      rw [List.mem_singleton.1 hq] at hy
      rw [honly y hy]
      exact hmet
    · rw [if_neg hmet]
      refine ⟨?_, ?_, ?_, ?_, ?_, ?_⟩
      · intro w hw
        exact Frontier.met_meet_iff.2 (Or.inr hw)
      · intro w hw
        simp [Frontier.meet, hw]
      · intro w hw
        rcases Frontier.met_meet_iff.1 hw with rfl | hw
        · exact Or.inr (by simp [Frontier.meet])
        · exact Or.inl hw
      · intro w hw
        rcases List.mem_append.1 hw with hw | hw
        · exact Or.inl hw
        · rw [List.mem_singleton.1 hw]
          exact Or.inr ⟨p, by simp, hleg⟩
      · intro q hq y hy
        rw [List.mem_singleton.1 hq] at hy
        exact Frontier.met_meet_iff.2 (Or.inl (honly y hy))
      · exact Frontier.work_meet_le (Device.isHandle_of_pipSrcWire hleg.src) hmet
  · -- the pip leads nowhere, so the frontier stays as it is
    have hanswer : Answers (c.expandPip pass net f p) fun _ => True := by
      have hpip := hlisted.hasPip
      refine Answers.bind (P := fun _ => True)
        ((Device.answers_isBlacklisted hpip).map fun _ _ => trivial) fun free _ => ?_
      cases free with
      | false => exact answers_ok trivial
      | true =>
        refine (Device.answers_pipSrcWire hpip).bind fun x hx => ?_
        by_cases hmet : f.trace.contains x = true
        · simp only [if_pos hmet]
          exact answers_ok trivial
        · simp only [if_neg hmet]
          refine (Device.answers_wireIntent hx).bind fun i _ => ?_
          split
          · exact answers_ok trivial
          · split
            · exact answers_ok trivial
            · exact answers_ok trivial
    obtain ⟨f', hf', _⟩ := hanswer
    rcases expandPip_cases hlisted hf' with rfl | ⟨x, hx, _⟩
    · refine ⟨_, hf', fun _ h => h, fun _ h => h, fun _ => Or.inl, fun _ => Or.inl, ?_,
        Nat.le_refl _⟩
      intro q hq y hy
      exact absurd ⟨y, List.mem_singleton.1 hq ▸ hy⟩ hleg
    · exact absurd ⟨x, hx⟩ hleg

theorem answers_expandPips (hlisted : ∀ p ∈ pips, c.device.Listed p) :
    Answers (pips.foldlM (c.expandPip pass net) f) (c.Expands pass net pips f) := by
  induction pips generalizing f with
  | nil => exact answers_ok (.refl c pass net f)
  | cons p pips ih =>
    rw [List.foldlM_cons]
    refine (answers_expandPip (hlisted p (by simp))).bind fun g hg => ?_
    exact (ih fun q hq => hlisted q (by simp [hq])).mono fun _ h => hg.trans h

/-! ### The whole search -/

/-- Every wire that was met waits for its visit, or has been visited: it is not the net's, and
every wire one step up has been met. -/
def Swept (c : Context) (pass : Pass) (net : NetId) (f : Frontier) : Prop :=
  ∀ w, f.Met w → w ∈ f.queue ∨ c.wireNet w ≠ some net ∧
    ∀ pips p x, c.device.pipsUphill w = .ok pips → p ∈ pips → c.Leg pass net x p → f.Met x

/-- What a visit of a wire that is not the net's leaves behind. -/
def Passed (c : Context) (pass : Pass) (net : NetId) (f : Frontier) (w : WireId) : Prop :=
  c.wireNet w ≠ some net ∧
    ∀ pips p x, c.device.pipsUphill w = .ok pips → p ∈ pips → c.Leg pass net x p → f.Met x

theorem Swept.round (h : c.Swept pass net f) (hq : f.queue = y :: rest)
    (hforeign : c.wireNet y ≠ some net) (hpips : c.device.pipsUphill y = .ok pips)
    (hg : c.Expands pass net pips { f with queue := rest } g) :
    c.Swept pass net g ∧ c.Passed pass net g y ∧ ∀ w, c.Passed pass net f w → c.Passed pass net g w := by
  have hy : c.Passed pass net g y := by
    refine ⟨hforeign, fun pips' p x hpips' hp hleg => ?_⟩
    obtain rfl : pips = pips' := Except.ok.inj (hpips.symm.trans hpips')
    exact hg.leg p hp x hleg
  have hkeeps (w : WireId) (hw : c.Passed pass net f w) : c.Passed pass net g w :=
    ⟨hw.1, fun pips' p x hpips' hp hleg => hg.met x (hw.2 pips' p x hpips' hp hleg)⟩
  refine ⟨fun w hw => ?_, hy, hkeeps⟩
  rcases hg.fresh w hw with hold | hnew
  · rcases h w hold with hwaits | hpassed
    · rw [hq] at hwaits
      rcases List.mem_cons.1 hwaits with rfl | hrest
      · exact Or.inr hy
      · exact Or.inl (hg.waits w hrest)
    · exact Or.inr (hkeeps w hpassed)
  · exact Or.inl hnew

/-- Visits end, either at a wire of the net uphill of the sink or because there is none. -/
theorem answers_visit {fuel : Nat} (hsink : c.device.IsHandle sink) (hstart : f.Met sink)
    (hqueue : ∀ w ∈ f.queue, c.Uphill pass net sink w) (hswept : c.Swept pass net f)
    (hwork : f.work c.device < fuel) :
    Answers (c.visit pass net fuel f) fun found =>
      (found = none ↔ ∀ w, c.Uphill pass net sink w → c.wireNet w ≠ some net) := by
  induction fuel generalizing f with
  | zero => omega
  | succ fuel ih =>
    rw [visit]
    cases hq : f.queue with
    | nil =>
      refine answers_ok (iff_of_true rfl fun w hw => ?_)
      -- what was met is closed under legal steps now
      have hmet : f.Met w := by
        induction hw with
        | start => exact hstart
        | step _ hpips hp hleg ih =>
          rcases hswept _ ih with hmem | ⟨_, hclosed⟩
          · simp [hq] at hmem
          · exact hclosed _ _ _ hpips hp hleg
      rcases hswept w hmet with hmem | ⟨hforeign, _⟩
      · simp [hq] at hmem
      · exact hforeign
    | cons y rest =>
      have hy : c.Uphill pass net sink y := hqueue y (by simp [hq])
      simp only
      by_cases hnet : c.wireNet y = some net
      · rw [if_pos hnet]
        exact answers_ok (iff_of_false (by simp) fun hforeign => hforeign y hy hnet)
      · rw [if_neg hnet]
        have hhandle := hy.isHandle hsink
        obtain ⟨pips, hpips, _⟩ := Device.answers_pipsUphill hhandle.hasWire
        rw [hpips]
        have hlisted : ∀ p ∈ pips, c.device.Listed p := fun p hp => ⟨y, pips, hhandle, hpips, hp⟩
        have hround : Answers (pips.foldlM (c.expandPip pass net) { f with queue := rest })
            (c.Expands pass net pips { f with queue := rest }) := answers_expandPips hlisted
        refine hround.bind fun g hg => ih (hg.met sink hstart) ?_ (hswept.round hq hnet hpips hg).1 ?_
        · intro w hw
          rcases hg.queued w hw with hold | ⟨p, hp, hleg⟩
          · exact hqueue w (by simp [hq, show w ∈ rest from hold])
          · exact hy.step hpips hp hleg
        · have hless : ({ f with queue := rest } : Frontier).work c.device + 1 = f.work c.device := by
            simp only [Frontier.work, hq, List.length_cons]
            omega
          have hle := hg.work
          omega

theorem met_start_iff : (Frontier.start sink).Met w ↔ w = sink := by
  rw [Frontier.Met, Frontier.start, Std.ExtTreeMap.mem_insert, Std.compare_eq_iff_eq, eq_comm]
  simp

theorem swept_start : c.Swept pass net (.start sink) := fun _ hw =>
  Or.inl (List.mem_singleton.2 (met_start_iff.1 hw))

theorem answers_visit_start (pass : Pass) (net : NetId) (hsink : c.device.IsHandle sink) :
    Answers (c.visit pass net c.device.wireBound (Frontier.start sink)) fun found =>
      (found = none ↔ ∀ w, c.Uphill pass net sink w → c.wireNet w ≠ some net) := by
  refine answers_visit hsink (met_start_iff.2 rfl) ?_ swept_start ?_
  · intro w hw
    rw [List.mem_singleton.1 hw]
    exact .start
  · have hle := List.length_filter_le (· ∉ (Frontier.start sink).trace) c.device.handles
    have hlt := c.device.length_handles_lt
    rw [Frontier.work, show (Frontier.start sink).queue.length = 1 from rfl]
    omega

theorem searchUphill_eq_none_iff (hsink : c.device.IsHandle sink) :
    c.searchUphill pass net sink = .ok none ↔
      ∀ w, c.Uphill pass net sink w → c.wireNet w ≠ some net := by
  obtain ⟨found, hfound, hiff⟩ := answers_visit_start pass net hsink
  rw [← hiff, searchUphill, hfound]
  cases found with
  | none => exact ⟨fun _ => rfl, fun _ => rfl⟩
  | some found =>
    simp only [bind, Except.bind, pure, Except.pure, reduceCtorEq, iff_false]
    cases c.walkBack found.2.trace found.2.trace.size found.1 with
    | error fault => simp
    | ok path => simp

theorem searchUphill_of_own (h : c.wireNet sink = some net) :
    c.searchUphill pass net sink = .ok (some []) := by
  have hsome : (Frontier.start sink).trace[sink]? = some none := by
    rw [Frontier.start, getElem?_insert_ite, if_pos rfl]
  have hbound : c.device.wireBound = c.device.wireBound - 1 + 1 := by
    rw [Device.wireBound]
    omega
  rw [searchUphill, hbound, visit]
  simp only [Frontier.start, if_pos h, bind, Except.bind, pure, Except.pure]
  rw [walkBack.eq_def]
  rw [Frontier.start] at hsome
  simp only [hsome]

end Context
end Interconnect
