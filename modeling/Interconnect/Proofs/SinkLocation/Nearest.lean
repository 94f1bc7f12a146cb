import Interconnect.Proofs.Device.Member
import Interconnect.Proofs.Ownership.Change
import Interconnect.Routing.SinkLocation
import Mathlib.Data.List.Chain
import Mathlib.Data.Set.Card
/-!
# The nearest exit

The search for the place of a sink walks uphill through wires of the sink's own feed, nearest wires
first, until it comes to an exit. The wires that it has met and not yet visited lie around the sink
like a front. Every way out to an exit crosses the front, so the first exit visited is a nearest one.
-/
namespace Interconnect

namespace Device

variable {d : Device} {s w x y : WireId} {ws trail : List WireId} {pips : List PipId}

/-- A wire that belongs neither to a site nor to a sink's feed. -/
def Exit (d : Device) (w : WireId) : Prop :=
  d.wireSite w = .ok none ∧ ∃ i, d.wireIntent w = .ok i ∧ i ∉ sinkFeedIntents

/-- A pip that is listed uphill of a wire comes from the other. -/
def Feeds (d : Device) (x w : WireId) : Prop :=
  ∃ pips p, d.pipsUphill w = .ok pips ∧ p ∈ pips ∧ d.pipSrcWire p = .ok x

/-- A way down from a wire to the sink. The wires past the first are no exits. -/
structure Walk (d : Device) (s x : WireId) (ws : List WireId) : Prop where
  joined : (x :: ws).IsChain d.Feeds
  ends : (x :: ws).getLast? = some s
  inner : ∀ w ∈ ws, ¬ d.Exit w

theorem answers_isExit (h : d.HasWire w) : Answers (d.isExit w) (· = true ↔ d.Exit w) := by
  obtain ⟨site, hsite, -⟩ := answers_wireSite h
  obtain ⟨i, hi, -⟩ := answers_wireIntent h
  cases site with
  | some site => exact ⟨false, by rw [isExit, hsite]; rfl, by simp [Exit, hsite]⟩
  | none =>
    refine ⟨!sinkFeedIntents.contains i, ?_, by simp [Exit, hsite, hi]⟩
    rw [isExit, hsite]
    simp only [bind, Except.bind, hi]
    rfl

theorem Feeds.hasWire (h : d.Feeds x w) (hw : d.HasWire w) : d.HasWire x := by
  obtain ⟨pips, p, hpips, hp, hx⟩ := h
  obtain ⟨pips', hpips', hhas⟩ := answers_pipsUphill hw
  obtain rfl : pips = pips' := Except.ok.inj (hpips.symm.trans hpips')
  obtain ⟨x', hx', hhas⟩ := answers_pipSrcWire (hhas p hp)
  obtain rfl : x = x' := Except.ok.inj (hx.symm.trans hx')
  exact hhas

theorem walk_nil_iff : d.Walk s x [] ↔ x = s := by
  constructor
  · intro h
    exact Option.some.inj h.ends
  · rintro rfl
    exact ⟨List.isChain_singleton x, rfl, by simp⟩

theorem walk_cons_iff :
    d.Walk s x (w :: ws) ↔ d.Feeds x w ∧ ¬ d.Exit w ∧ d.Walk s w ws := by
  constructor
  · intro h
    obtain ⟨hfeeds, hjoined⟩ := List.isChain_cons_cons.1 h.joined
    obtain ⟨hw, hinner⟩ := List.forall_mem_cons.1 h.inner
    exact ⟨hfeeds, hw, hjoined, by simpa only [List.getLast?_cons_cons] using h.ends, hinner⟩
  · rintro ⟨hfeeds, hw, h⟩
    exact ⟨List.isChain_cons_cons.2 ⟨hfeeds, h.joined⟩,
      by simpa only [List.getLast?_cons_cons] using h.ends, List.forall_mem_cons.2 ⟨hw, h.inner⟩⟩

theorem Walk.hasWire (hs : d.HasWire s) (h : d.Walk s x ws) : d.HasWire x := by
  induction ws generalizing x with
  | nil => exact walk_nil_iff.1 h ▸ hs
  | cons w ws ih =>
    obtain ⟨hfeeds, -, h⟩ := walk_cons_iff.1 h
    exact hfeeds.hasWire (ih h)

/-! ### One wire -/

/-- From one state of a search to the other the wires behind some pips of a wire have been met, and
those that are new put onto the queue. -/
structure Met (d : Device) (w : WireId) (pips : List PipId) (f g : SinkSearch) (new : List WireId) :
    Prop where
  queue : g.queue = f.queue ++ new
  trace : ∀ x, g.trace[x]? = if x ∈ new then some (some w) else f.trace[x]?
  size : g.trace.size = f.trace.size + new.length
  nodup : new.Nodup
  fresh : ∀ x ∈ new, f.trace[x]? = none
  behind : ∀ x ∈ new, ∃ p ∈ pips, d.pipSrcWire p = .ok x
  all : ∀ p ∈ pips, ∀ x, d.pipSrcWire p = .ok x → g.trace[x]? ≠ none

theorem met_pip {p : PipId} {f : SinkSearch} (hx : d.pipSrcWire p = .ok x) :
    Answers (d.meetUphill w f p) fun g => ∃ new, d.Met w [p] f g new := by
  rw [meetUphill, hx]
  by_cases hmet : x ∈ f.trace
  · refine ⟨f, by simp [bind, Except.bind, hmet, pure, Except.pure], [], ?_⟩
    constructor <;> simp [hx, hmet]
  · refine ⟨f.meet x w, by simp [bind, Except.bind, hmet, pure, Except.pure], [x], ?_⟩
    constructor <;>
      simp [SinkSearch.meet, getElem?_insert_ite, Std.ExtTreeMap.size_insert, hx, hmet]

theorem Met.trans {p : PipId} {f g h : SinkSearch} {new more : List WireId}
    (hfirst : d.Met w [p] f g new) (hrest : d.Met w pips g h more) :
    d.Met w (p :: pips) f h (new ++ more) := by
  have hapart (x : WireId) (hnew : x ∈ new) : x ∉ more := by
    intro hmore
    have hfresh := hrest.fresh x hmore
    rw [hfirst.trace, if_pos hnew] at hfresh
    cases hfresh
  constructor
  · rw [hrest.queue, hfirst.queue, List.append_assoc]
  · intro x
    rw [hrest.trace, hfirst.trace]
    grind
  · rw [hrest.size, hfirst.size, List.length_append, Nat.add_assoc]
  · exact List.nodup_append'.2 ⟨hfirst.nodup, hrest.nodup, hapart⟩
  · intro x hx
    rcases List.mem_append.1 hx with hx | hx
    · exact hfirst.fresh x hx
    · have hfresh := hrest.fresh x hx
      rwa [hfirst.trace, if_neg fun hnew => hapart x hnew hx] at hfresh
  · intro x hx
    rcases List.mem_append.1 hx with hx | hx
    · obtain ⟨q, hq, hsrc⟩ := hfirst.behind x hx
      exact ⟨q, by simp [List.mem_singleton.1 hq], hsrc⟩
    · obtain ⟨q, hq, hsrc⟩ := hrest.behind x hx
      exact ⟨q, by simp [hq], hsrc⟩
  · intro q hq x hx
    rcases List.mem_cons.1 hq with rfl | hq
    · rw [hrest.trace]
      split
      · simp
      · exact hfirst.all q (by simp) x hx
    · exact hrest.all q hq x hx

theorem answers_meet {f : SinkSearch} (h : ∀ p ∈ pips, d.HasPip p) :
    Answers (pips.foldlM (d.meetUphill w) f) fun g => ∃ new, d.Met w pips f g new := by
  induction pips generalizing f with
  | nil => exact answers_ok ⟨[], by constructor <;> simp⟩
  | cons p pips ih =>
    obtain ⟨x, hx, -⟩ := answers_pipSrcWire (h p (by simp))
    rw [List.foldlM_cons]
    refine (met_pip hx).bind fun g ⟨new, hnew⟩ => ?_
    exact (ih fun q hq => h q (by simp [hq])).mono fun g' ⟨more, hmore⟩ => ⟨_, hnew.trans hmore⟩

/-! ### The way back -/

/-- A search that has visited some wires and has others on its queue. The trace leads from each of
them back to the sink. -/
structure Traced (visited front : List (WireId × List WireId)) (f : SinkSearch) : Prop where
  queue : f.queue = front.map (·.1)
  trace : ∀ w r, f.trace[w]? = some r ↔ ∃ ws, (w, ws) ∈ visited ++ front ∧ r = ws.head?
  back : ∀ w x ws, (w, x :: ws) ∈ visited ++ front → (x, ws) ∈ visited
  nodup : ((visited ++ front).map (·.1)).Nodup
  size : f.trace.size = (visited ++ front).length
  short : ∀ e ∈ visited ++ front, e.2.length < (visited ++ front).length

section
variable {visited front rest : List (WireId × List WireId)} {f g : SinkSearch} {new : List WireId}

theorem visited_append : visited ++ [(w, trail)] ++ (rest ++ new.map (·, w :: trail)) =
    visited ++ (w, trail) :: rest ++ new.map (·, w :: trail) := by
  simp

theorem traced_start (s : WireId) : Traced [] [(s, [])] (SinkSearch.start s) := by
  constructor <;> simp [SinkSearch.start, getElem?_insert_ite, Std.ExtTreeMap.size_insert]
  grind

theorem Traced.trailFrom (h : Traced visited front f) (he : (w, ws) ∈ visited ++ front) {fuel : Nat}
    (hfuel : ws.length ≤ fuel) : SinkSearch.trailFrom f.trace fuel w = .ok ws := by
  induction ws generalizing w fuel with
  | nil =>
    rw [SinkSearch.trailFrom, (h.trace w none).2 ⟨[], he, rfl⟩]
  | cons x ws ih =>
    obtain ⟨fuel, rfl⟩ := Nat.exists_eq_add_of_le' (Nat.lt_of_lt_of_le (Nat.succ_pos _) hfuel)
    rw [SinkSearch.trailFrom, (h.trace w (some x)).2 ⟨x :: ws, he, rfl⟩]
    have hnext := ih (List.mem_append_left _ (h.back w x ws he)) (Nat.le_of_succ_le_succ hfuel)
    simp only [hnext, bind, Except.bind]
    rfl

/-- The trace has room for the way back from each wire that was met. -/
theorem Traced.trailFrom_size (h : Traced visited front f) (he : (w, ws) ∈ visited ++ front) :
    SinkSearch.trailFrom f.trace f.trace.size w = .ok ws :=
  h.trailFrom he (h.size ▸ Nat.le_of_lt (h.short _ he))

theorem Traced.mem_iff (h : Traced visited front f) :
    f.trace[x]? ≠ none ↔ x ∈ (visited ++ front).map (·.1) := by
  rw [Option.ne_none_iff_exists', List.mem_map]
  constructor
  · rintro ⟨r, hr⟩
    obtain ⟨ws, he, -⟩ := (h.trace x r).1 hr
    exact ⟨_, he, rfl⟩
  · rintro ⟨⟨x, ws⟩, he, rfl⟩
    exact ⟨_, (h.trace x _).2 ⟨ws, he, rfl⟩⟩

theorem Traced.visit (h : Traced visited ((w, trail) :: rest) f)
    (hmet : d.Met w pips { f with queue := rest.map (·.1) } g new) :
    Traced (visited ++ [(w, trail)]) (rest ++ new.map (·, w :: trail)) g := by
  have hnew (x : WireId) (hx : x ∈ new) : x ∉ (visited ++ (w, trail) :: rest).map (·.1) :=
    mt h.mem_iff.2 (by simpa using hmet.fresh x hx)
  constructor
  case queue => rw [hmet.queue, List.map_append, List.map_map, Function.comp_def, List.map_id']
  case trace =>
    intro x r
    rw [visited_append, hmet.trace]
    by_cases hx : x ∈ new
    · rw [if_pos hx]
      constructor
      · intro hr
        exact ⟨w :: trail, List.mem_append_right _ (List.mem_map.2 ⟨x, hx, rfl⟩),
          (Option.some.inj hr).symm⟩
      · rintro ⟨ws, he, rfl⟩
        rcases List.mem_append.1 he with he | he
        · exact absurd (List.mem_map.2 ⟨_, he, rfl⟩) (hnew x hx)
        · obtain ⟨v, -, heq⟩ := List.mem_map.1 he
          rw [← (Prod.mk.inj heq).2, List.head?_cons]
    · rw [if_neg hx, h.trace x r]
      simp [hx]
  case back =>
    rw [visited_append]
    intro x y ws he
    rcases List.mem_append.1 he with he | he
    · exact List.mem_append_left _ (h.back x y ws he)
    · obtain ⟨v, -, heq⟩ := List.mem_map.1 he
      obtain ⟨rfl, rfl⟩ := List.cons.inj (Prod.mk.inj heq).2
      simp
  case nodup =>
    rw [visited_append, List.map_append, List.map_map, Function.comp_def, List.map_id']
    exact List.nodup_append'.2 ⟨h.nodup, hmet.nodup, fun x hx hx' => hnew x hx' hx⟩
  case size =>
    rw [visited_append, hmet.size, h.size]
    simp only [List.length_append, List.length_map]
  case short =>
    rw [visited_append]
    intro e he
    rw [List.length_append]
    rcases List.mem_append.1 he with he | he
    · exact Nat.lt_add_right _ (h.short e he)
    · -- the way from a new wire is longer by one, and so is the list
      have hfirst := h.short (w, trail) (by simp)
      have hpos := List.length_pos_of_mem he
      obtain ⟨v, -, rfl⟩ := List.mem_map.1 he
      simp only [List.length_cons] at hfirst ⊢
      omega

end

/-! ### The front -/

/-- Wires that a search has visited, none of them an exit, and the front of those that it has met
besides. They stand in the order of their distance from the sink, each with a way down to it. All that
lies behind a visited wire has been met. -/
structure Wave (d : Device) (s : WireId) (visited front : List (WireId × List WireId)) : Prop where
  start : (s, []) ∈ visited ++ front
  walk : ∀ e ∈ visited ++ front, d.Walk s e.1 e.2
  inner : ∀ e ∈ visited, ¬ d.Exit e.1
  closed : ∀ e ∈ visited, ∀ x, d.Feeds x e.1 →
    ∃ ws, (x, ws) ∈ visited ++ front ∧ ws.length ≤ e.2.length + 1
  sorted : (visited ++ front).Pairwise (·.2.length ≤ ·.2.length)
  close : ∀ e ∈ front, ∀ e' ∈ front, e'.2.length ≤ e.2.length + 1

namespace Wave

variable {visited front rest : List (WireId × List WireId)} {f g : SinkSearch} {new : List WireId}
  {e : WireId × List WireId}

theorem start_search (d : Device) (s : WireId) : d.Wave s [] [(s, [])] := by
  constructor <;> simp [walk_nil_iff]

theorem crosses (h : d.Wave s visited front) (hx : d.Walk s x ws) :
    (∃ e ∈ front, e.2.length ≤ ws.length) ∨ ∃ t, (x, t) ∈ visited ∧ t.length ≤ ws.length := by
  induction ws generalizing x with
  | nil =>
    obtain rfl := walk_nil_iff.1 hx
    rcases List.mem_append.1 h.start with hstart | hstart
    · exact .inr ⟨[], hstart, by simp⟩
    · exact .inl ⟨_, hstart, by simp⟩
  | cons w ws ih =>
    obtain ⟨hfeeds, -, hw⟩ := walk_cons_iff.1 hx
    rcases ih hw with ⟨e, he, hle⟩ | ⟨t, ht, hle⟩
    · exact .inl ⟨e, he, Nat.le_succ_of_le hle⟩
    · obtain ⟨t', ht', hle'⟩ := h.closed _ ht x hfeeds
      have hlength : t'.length ≤ (w :: ws).length := hle'.trans (Nat.succ_le_succ hle)
      rcases List.mem_append.1 ht' with ht' | ht'
      · exact .inr ⟨t', ht', hlength⟩
      · exact .inl ⟨_, ht', hlength⟩

theorem crosses_to_exit (h : d.Wave s visited front) (hx : d.Walk s x ws) (hexit : d.Exit x) :
    ∃ e ∈ front, e.2.length ≤ ws.length := by
  rcases h.crosses hx with hcross | ⟨t, ht, -⟩
  · exact hcross
  · exact absurd hexit (h.inner _ ht)

theorem no_exit (h : d.Wave s visited []) (hx : d.Walk s x ws) : ¬ d.Exit x := by
  intro hexit
  obtain ⟨e, he, -⟩ := h.crosses_to_exit hx hexit
  cases he

theorem first_le (h : d.Wave s visited ((w, trail) :: rest)) (he : e ∈ (w, trail) :: rest) :
    trail.length ≤ e.2.length := by
  have hsorted := (List.pairwise_append.1 h.sorted).2.1
  rcases List.mem_cons.1 he with rfl | he
  · exact Nat.le_refl _
  · exact (List.pairwise_cons.1 hsorted).1 e he

theorem first_le_exit (h : d.Wave s visited ((w, trail) :: rest)) (hx : d.Walk s x ws)
    (hexit : d.Exit x) : trail.length ≤ ws.length := by
  obtain ⟨e, he, hle⟩ := h.crosses_to_exit hx hexit
  exact (h.first_le he).trans hle

theorem le_first_succ (h : d.Wave s visited ((w, trail) :: rest))
    (he : e ∈ visited ++ (w, trail) :: rest) : e.2.length ≤ trail.length + 1 := by
  have hfirst : (w, trail) ∈ (w, trail) :: rest := List.mem_cons_self
  rcases List.mem_append.1 he with he | he
  · exact Nat.le_succ_of_le ((List.pairwise_append.1 h.sorted).2.2 e he _ hfirst)
  · exact h.close _ hfirst e he

/-- The wires visited so far and one more are no farther than any exit. -/
theorem crowded (h : d.Wave s visited front) (hnodup : ((visited ++ front).map (·.1)).Nodup)
    (hx : d.Walk s x ws) (hexit : d.Exit x) :
    visited.length + 1 ≤ {w | ∃ vs, d.Walk s w vs ∧ vs.length ≤ ws.length}.encard := by
  obtain ⟨e, he, hle⟩ := h.crosses_to_exit hx hexit
  have hsub : (visited ++ [e]).Sublist (visited ++ front) :=
    (List.singleton_sublist.2 he).append_left visited
  have hcard : ((visited ++ [e]).map (·.1)).toFinset.card = visited.length + 1 := by
    rw [List.toFinset_card_of_nodup (hnodup.sublist (hsub.map _))]
    simp
  have hnear : (((visited ++ [e]).map (·.1)).toFinset : Set WireId) ⊆
      {w | ∃ vs, d.Walk s w vs ∧ vs.length ≤ ws.length} := by
    intro w hw
    obtain ⟨e', he', rfl⟩ := List.mem_map.1 (List.mem_toFinset.1 (Finset.mem_coe.1 hw))
    refine ⟨e'.2, h.walk e' (hsub.subset he'), Nat.le_trans ?_ hle⟩
    rcases List.mem_append.1 he' with he' | he'
    · exact (List.pairwise_append.1 h.sorted).2.2 e' he' e he
    · rw [List.mem_singleton.1 he']
  calc ((visited.length + 1 : Nat) : ℕ∞)
      = (((visited ++ [e]).map (·.1)).toFinset : Set WireId).encard := by
        rw [Set.encard_coe_eq_coe_finsetCard, hcard]
    _ ≤ _ := Set.encard_le_encard hnear

theorem visit (h : d.Wave s visited ((w, trail) :: rest)) (hw : ¬ d.Exit w)
    (hbehind : ∀ x ∈ new, d.Feeds x w)
    (hall : ∀ x, d.Feeds x w → x ∈ (visited ++ (w, trail) :: rest).map (·.1) ∨ x ∈ new) :
    d.Wave s (visited ++ [(w, trail)]) (rest ++ new.map (·, w :: trail)) := by
  constructor
  case start =>
    rw [visited_append]
    exact List.mem_append_left _ h.start
  case walk =>
    rw [visited_append]
    intro e he
    rcases List.mem_append.1 he with he | he
    · exact h.walk e he
    · obtain ⟨x, hx, rfl⟩ := List.mem_map.1 he
      exact walk_cons_iff.2 ⟨hbehind x hx, hw, h.walk (w, trail) (by simp)⟩
  case inner =>
    intro e he
    rcases List.mem_append.1 he with he | he
    · exact h.inner e he
    · rwa [List.mem_singleton.1 he]
  case closed =>
    rw [visited_append]
    intro e he x hfeeds
    rcases List.mem_append.1 he with he | he
    · obtain ⟨ws, hws, hle⟩ := h.closed e he x hfeeds
      exact ⟨ws, List.mem_append_left _ hws, hle⟩
    · obtain rfl := List.mem_singleton.1 he
      rcases hall x hfeeds with hx | hx
      · obtain ⟨⟨x, ws⟩, he, rfl⟩ := List.mem_map.1 hx
        exact ⟨ws, List.mem_append_left _ he, h.le_first_succ he⟩
      · exact ⟨w :: trail, List.mem_append_right _ (List.mem_map.2 ⟨x, hx, rfl⟩), by simp⟩
  case sorted =>
    rw [visited_append]
    refine List.pairwise_append.2 ⟨h.sorted, ?_, fun e he e' he' => ?_⟩
    · exact List.pairwise_map.2 (List.pairwise_of_forall fun _ _ => Nat.le_refl _)
    · obtain ⟨x, -, rfl⟩ := List.mem_map.1 he'
      exact h.le_first_succ he
  case close =>
    intro e he e' he'
    have hlow : trail.length ≤ e.2.length := by
      rcases List.mem_append.1 he with he | he
      · exact h.first_le (by simp [he])
      · obtain ⟨x, -, rfl⟩ := List.mem_map.1 he
        simp
    have hhigh : e'.2.length ≤ trail.length + 1 := by
      rcases List.mem_append.1 he' with he' | he'
      · exact h.le_first_succ (by simp [he'])
      · obtain ⟨x, -, rfl⟩ := List.mem_map.1 he'
        simp
    omega

theorem visit_met (h : d.Wave s visited ((w, trail) :: rest))
    (ht : Traced visited ((w, trail) :: rest) f) (hw : ¬ d.Exit w)
    (hpips : d.pipsUphill w = .ok pips)
    (hmet : d.Met w pips { f with queue := rest.map (·.1) } g new) :
    d.Wave s (visited ++ [(w, trail)]) (rest ++ new.map (·, w :: trail)) := by
  refine h.visit hw (fun x hx => ?_) fun x hfeeds => ?_
  · obtain ⟨p, hp, hsrc⟩ := hmet.behind x hx
    exact ⟨pips, p, hpips, hp, hsrc⟩
  · obtain ⟨pips', p, hpips', hp, hsrc⟩ := hfeeds
    obtain rfl : pips = pips' := Except.ok.inj (hpips.symm.trans hpips')
    have hseen := hmet.all p hp x hsrc
    rw [hmet.trace] at hseen
    by_cases hx : x ∈ new
    · exact .inr hx
    · rw [if_neg hx] at hseen
      exact .inl (ht.mem_iff.1 hseen)

/-- A search comes to a nearest exit, finds that there is none, or has visited as many wires as it
may. -/
theorem answers_visitUphill (hs : d.HasWire s) (h : d.Wave s visited front)
    (ht : Traced visited front f) (limit : Nat) :
    Answers (d.visitUphill limit f) fun answer =>
      (∀ e trail, answer = some (e, trail) → d.Exit e ∧ d.Walk s e trail ∧
        ∀ x ws, d.Walk s x ws → d.Exit x → trail.length ≤ ws.length) ∧
      (answer = none → (∀ x ws, d.Walk s x ws → ¬ d.Exit x) ∨
        ∃ visited' front', d.Wave s visited' front' ∧
          ((visited' ++ front').map (·.1)).Nodup ∧ visited'.length = visited.length + limit) := by
  induction limit generalizing visited front f with
  | zero => exact answers_ok ⟨by simp, fun _ => .inr ⟨visited, front, h, ht.nodup, rfl⟩⟩
  | succ limit ih =>
    cases front with
    | nil =>
      rw [visitUphill, ht.queue]
      exact answers_ok ⟨by simp, fun _ => .inl fun x ws hx => h.no_exit hx⟩
    | cons first rest =>
      obtain ⟨w, trail⟩ := first
      have hwalk := h.walk (w, trail) (by simp)
      have hhas := hwalk.hasWire hs
      rw [visitUphill, ht.queue]
      refine (answers_isExit hhas).bind fun leaves hleaves => ?_
      cases leaves with
      | true =>
        have htrail := ht.trailFrom_size (List.mem_append_right visited List.mem_cons_self)
        simp only [if_true, htrail]
        refine answers_ok ⟨fun e t het => ?_, fun hnone => nomatch hnone⟩
        obtain ⟨rfl, rfl⟩ := Prod.mk.inj (Option.some.inj het)
        exact ⟨hleaves.1 rfl, hwalk, fun x ws hx hexit => h.first_le_exit hx hexit⟩
      | false =>
        have hw : ¬ d.Exit w := fun hexit => nomatch hleaves.2 hexit
        obtain ⟨pips, hpips, hhaspips⟩ := answers_pipsUphill hhas
        simp only [Bool.false_eq_true, if_false, hpips, bind, Except.bind]
        refine (answers_meet hhaspips).bind fun g ⟨new, hmet⟩ => ?_
        refine (ih (h.visit_met ht hw hpips hmet) (ht.visit hmet)).mono fun answer hanswer => ?_
        simpa only [List.length_append, List.length_singleton, Nat.add_assoc, Nat.add_comm 1]
          using hanswer

end Wave

/-- The place of a sink is that of a nearest exit, together with a shortest way down from it. An exit
that can be reached is found unless more than 500 wires are no farther than it. -/
theorem locateSink_nearest (hs : d.HasWire s) : ∃ answer, d.locateSink s = .ok answer ∧
    (∀ e trail, answer = some (e, trail) → d.Exit e ∧ d.Walk s e trail ∧ (e = s → trail = []) ∧
      ∀ x ws, d.Walk s x ws → d.Exit x → trail.length ≤ ws.length) ∧
    (∀ x ws, d.Walk s x ws → d.Exit x →
      {w | ∃ vs, d.Walk s w vs ∧ vs.length ≤ ws.length}.encard ≤ 500 → answer ≠ none) ∧
    ((∀ x ws, d.Walk s x ws → ¬ d.Exit x) → answer = none) := by
  obtain ⟨answer, hanswer, hfound, hnone⟩ :=
    (Wave.start_search d s).answers_visitUphill hs (traced_start s) sinkSearchLimit
  refine ⟨answer, hanswer, ?_, ?_, ?_⟩
  · intro e trail heq
    obtain ⟨hexit, hwalk, hleast⟩ := hfound e trail heq
    refine ⟨hexit, hwalk, ?_, hleast⟩
    rintro rfl
    exact List.length_eq_zero_iff.1 (Nat.le_zero.1 (hleast e [] (walk_nil_iff.2 rfl) hexit))
  · intro x ws hx hexit hfew heq
    rcases hnone heq with hclosed | ⟨visited, front, hwave, hnodup, hlength⟩
    · exact hclosed x ws hx hexit
    · have hcrowd := hwave.crowded hnodup hx hexit
      rw [hlength] at hcrowd
      exact absurd (hcrowd.trans hfew) (by decide)
  · intro hclosed
    cases answer with
    | none => rfl
    | some found =>
      obtain ⟨hexit, hwalk, -⟩ := hfound found.1 found.2 rfl
      exact absurd hexit (hclosed _ _ hwalk)

end Device

/-! A sink that two wires lead to. One of them is fed by the sink itself, the other by an exit. -/

def feedRecord : ChipRecord where
  name := "xc7a"
  generator := ""
  width := 1
  height := 1
  knownIdCount := Known.count
  extraIds := #["S", "A", "B", "X"]
  tileTypes := #[{
    typeName := 0
    wires := #[
      ⟨Known.count, Known.ident "NODE_PINFEED", none, #[0, 1], #[3], #[]⟩,
      ⟨Known.count + 1, Known.ident "NODE_DEDICATED", none, #[3], #[0], #[]⟩,
      ⟨Known.count + 2, Known.ident "NODE_SINGLE", some 0, #[2], #[1], #[]⟩,
      ⟨Known.count + 3, Known.ident "NODE_SINGLE", none, #[], #[2], #[]⟩]
    pips := #[⟨1, 0, none, none, .tile, none⟩, ⟨2, 0, none, none, .tile, none⟩,
      ⟨3, 2, none, none, .tile, none⟩, ⟨0, 1, none, none, .tile, none⟩] }]
  tiles := #[⟨"T", 0, #[⟨"P", "", "P", (0, 0), none⟩], #[none, none, none, none]⟩]
  nodes := #[]
  timing := none

theorem locateSink_nearest_feed : ∃ db d, ChipDatabase.ofRecord feedRecord ⟨[]⟩ = .ok db ∧
    Device.ofDatabase db = .ok (.ok d) ∧ d.HasWire (.tile 0 0) ∧
    d.locateSink (.tile 0 0) = .ok (some (.tile 0 3, [.tile 0 2, .tile 0 0])) ∧
    d.Exit (.tile 0 3) ∧ d.Walk (.tile 0 0) (.tile 0 3) [.tile 0 2, .tile 0 0] ∧
    ∀ x ws, d.Walk (.tile 0 0) x ws → d.Exit x → 2 ≤ ws.length := by
  have accepted : ChipDatabase.ofRecord feedRecord ⟨[]⟩ = .ok ⟨feedRecord, ⟨[]⟩, rfl⟩ := rfl
  have opens : (do
      let opened ← Device.ofDatabase ⟨feedRecord, ⟨[]⟩, rfl⟩
      return opened.toOption.map fun d => (d.tileType 0).toOption.any (0 < ·.wires.size) && decide (
        d.locateSink (.tile 0 0) = .ok (some (.tile 0 3, [.tile 0 2, .tile 0 0])))) =
      Except.ok (some true) := by decide +kernel
  obtain ⟨d, opened, hcheck⟩ := Device.exists_of_check opens
  obtain ⟨htype, hfound⟩ := Bool.and_eq_true_iff.1 hcheck
  have hfound := of_decide_eq_true hfound
  obtain ⟨tt, typed, hwires⟩ := exists_of_any htype
  have hs : d.HasWire (.tile 0 0) := ⟨tt, typed, of_decide_eq_true hwires⟩
  obtain ⟨answer, hanswer, hnearest, -⟩ := Device.locateSink_nearest hs
  obtain rfl := Except.ok.inj (hanswer.symm.trans hfound)
  obtain ⟨hexit, hwalk, -, hleast⟩ := hnearest _ _ rfl
  exact ⟨_, d, accepted, opened, hs, hfound, hexit, hwalk, hleast⟩

end Interconnect
