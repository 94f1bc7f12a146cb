import Interconnect.Proofs.Placement.Users
import Interconnect.Proofs.Routing.Count
import Interconnect.Proofs.SinkLocation.Nearest
/-!
# The discovery of sinks

Sinks are located one after another, each together with the wires of its trail, and a wire that has a
location keeps it. So the location of a wire is the one that was recorded before, or that of the first
sink located whose trail holds the wire. A user that was looked at is settled, and stays settled while
others are located: looking at it again does nothing.
-/
namespace Interconnect

/-- What each step keeps, a whole walk keeps; and what a step brings about for its entry, and no step
undoes, holds of all entries in the end. -/
theorem foldlM_settles {ε α σ : Type} {step : σ → α → Except ε σ} {I : σ → Prop} {Q : α → σ → Prop}
    {xs : List α} {s s' : σ} (h : xs.foldlM step s = .ok s') (hs : I s)
    (hstep : ∀ s x s', x ∈ xs → I s → step s x = .ok s' → I s' ∧ Q x s')
    (hlater : ∀ s x s', x ∈ xs → I s → step s x = .ok s' → ∀ y, Q y s → Q y s') :
    I s' ∧ (∀ x ∈ xs, Q x s') ∧ ∀ y, Q y s → Q y s' := by
  induction xs generalizing s with
  | nil =>
    obtain rfl : s = s' := Except.ok.inj h
    exact ⟨hs, by simp, fun _ hy => hy⟩
  | cons x xs ih =>
    rw [List.foldlM_cons] at h
    obtain ⟨s₁, hx, h⟩ := bind_eq_ok_iff.1 h
    obtain ⟨hs₁, hqx⟩ := hstep s x s₁ (by simp) hs hx
    obtain ⟨hs', hall, hkeep⟩ := ih h hs₁ (fun a y b hy => hstep a y b (by simp [hy]))
      fun a y b hy => hlater a y b (by simp [hy])
    refine ⟨hs', List.forall_mem_cons.2 ⟨hkeep x hqx, hall⟩, fun y hy => hkeep y ?_⟩
    exact hlater s x s₁ (by simp) hs hx y hy

namespace Context

variable {c c' : Context} {user : PortRef} {sink w : WireId} {xy : Int × Int}

/-! ### Recording -/

theorem sinkLocation_setSinkLocation (c : Context) (w : WireId) (xy : Int × Int) (x : WireId) :
    (c.setSinkLocation w xy).2.sinkLocation x =
      (c.sinkLocation x).or (if x = w then some xy else none) := by
  rw [setSinkLocation]
  by_cases hw : w ∈ c.sinkLocations
  · rw [if_pos (by simpa using hw)]
    by_cases hx : x = w
    · subst hx
      simp [sinkLocation, Std.ExtTreeMap.getElem?_eq_some_getElem hw]
    · simp [hx]
  · rw [if_neg (by simpa using hw)]
    simp only [sinkLocation, getElem?_insert_ite]
    by_cases hx : x = w
    · subst hx
      simp [Std.ExtTreeMap.getElem?_eq_none hw]
    · simp [hx]

theorem sinkLocation_setSinkLocations (c : Context) (ws : List WireId) (xy : Int × Int) (x : WireId) :
    (c.setSinkLocations ws xy).sinkLocation x =
      (c.sinkLocation x).or (if x ∈ ws then some xy else none) := by
  induction ws generalizing c with
  | nil => simp [setSinkLocations]
  | cons w ws ih =>
    have hrest := ih (c.setSinkLocation w xy).2
    rw [sinkLocation_setSinkLocation] at hrest
    rw [setSinkLocations, List.foldl_cons, ← setSinkLocations, hrest]
    by_cases hx : x = w <;> cases c.sinkLocation x <;> simp [hx]

/-! ### Sinks outside the logic tiles -/

/-- The wire that a user needs whose cell is placed outside the logic tiles. -/
def ExternalSink (c : Context) (user : PortRef) (sink : WireId) : Prop :=
  ∃ x b, c.netlist.cell user.cell = .ok x ∧ x.bel = some b ∧ c.device.isLogicTile b = .ok false ∧
    c.portWire user = .ok (some sink)

theorem externalSink?_eq_some_iff :
    c.externalSink? user = .ok (some sink) ↔ c.ExternalSink user sink := by
  constructor
  · intro h
    obtain ⟨x, hx, h⟩ := bind_eq_ok_iff.1 h
    cases hb : x.bel with
    | none => simp [hb, pure, Except.pure] at h
    | some b =>
      simp only [hb] at h
      obtain ⟨logic, hlogic, h⟩ := bind_eq_ok_iff.1 h
      cases logic with
      | true => simp [pure, Except.pure] at h
      | false => exact ⟨x, b, hx, hb, hlogic, h⟩
  · intro h
    obtain ⟨x, b, hx, hb, hlogic, hport⟩ := h
    simp only [externalSink?, hx, hb, hlogic, bind, Except.bind]
    exact hport

theorem answers_externalSink? (hn : c.device.Named) {x : Cell}
    (hx : c.netlist.cell user.cell = .ok x) (hb : ∀ b, x.bel = some b → c.device.HasBel b) :
    Answers (c.externalSink? user) (∀ w ∈ ·, c.device.HasWire w) := by
  have absent : Answers (.ok none : Query (Option WireId)) (∀ w ∈ ·, c.device.HasWire w) :=
    answers_ok (by simp)
  rw [externalSink?, hx]
  simp only [bind, Except.bind]
  cases hbel : x.bel with
  | none => exact absent
  | some b =>
    dsimp only
    refine (Device.answers_isLogicTile hn (hb b hbel)).bind fun logic _ => ?_
    cases logic with
    | true => exact absent
    | false =>
      simp only [portWire, hx, hbel, bind, Except.bind]
      exact Device.answers_belPinWire (hb b hbel) _

/-! ### One user -/

/-- A sink that was located: its exit, the wires from behind the exit down to the sink, and the place
that all of them have. -/
structure LocatedSink where
  sink : WireId
  exit : WireId
  trail : List WireId
  place : Int × Int

/-- The wires that get a location with a sink. -/
def LocatedSink.wires (f : LocatedSink) : List WireId := f.sink :: f.trail

/-- The sink is that of a user placed outside the logic tiles and had no location, the exit and the
trail are those that the search finds for it, and the place is the coordinate of the exit's tile. -/
structure Locates (c : Context) (f : LocatedSink) : Prop where
  user : ∃ net n user, c.netlist.net net = .ok n ∧ user ∈ n.users ∧ c.ExternalSink user f.sink
  fresh : c.sinkLocation f.sink = none
  found : c.device.locateSink f.sink = .ok (some (f.exit, f.trail))
  place : ∃ m, c.device.canonicalMember f.exit = .ok m ∧ c.device.tileXY m.tile = .ok f.place

/-- What has become of a context after some sinks were located. Only locations were added, and each is
the place of the first of these sinks whose wires hold the wire. No sink lay among the wires of an
earlier one, and each was counted. -/
structure Discovered (c : Context) (found : List LocatedSink) (s : SinkState) : Prop where
  frame : s.ctx = { c with sinkLocations := s.ctx.sinkLocations }
  count : s.located = found.length
  locates : ∀ f ∈ found, c.Locates f
  apart : found.Pairwise fun f g => g.sink ∉ f.wires
  location : ∀ w, s.ctx.sinkLocation w =
    (c.sinkLocation w).or ((found.find? (w ∈ ·.wires)).map (·.place))

theorem discovered_start (c : Context) (log : Log) : Discovered c [] { ctx := c, log } := by
  constructor <;> simp

variable {s s' : SinkState} {found : List LocatedSink} {net : NetId} {n : Net}

theorem Settled.mono (h : c.Settled user) (hframe : c' = { c with sinkLocations := c'.sinkLocations })
    (hmore : ∀ w, (c.sinkLocation w).isSome = true → (c'.sinkLocation w).isSome = true) :
    c'.Settled user := by
  obtain ⟨answer, hanswer, hsettled⟩ := h
  rw [hframe]
  refine ⟨answer, hanswer, fun sink heq => (hsettled sink heq).imp_left fun hknown => ?_⟩
  exact hmore sink hknown

theorem Discovered.add (h : Discovered c found s) {f : LocatedSink} (hf : c.Locates f)
    (hfresh : s.ctx.sinkLocation f.sink = none)
    (hctx : s'.ctx = s.ctx.setSinkLocations f.wires f.place) (hcount : s'.located = s.located + 1) :
    Discovered c (found ++ [f]) s' := by
  constructor
  case frame =>
    obtain ⟨places, hplaces⟩ := setSinkLocations_ctx s.ctx f.wires f.place
    rw [hctx, hplaces, h.frame]
  case count => rw [hcount, h.count, List.length_append, List.length_singleton]
  case locates =>
    intro g hg
    rcases List.mem_append.1 hg with hg | hg
    · exact h.locates g hg
    · rwa [List.mem_singleton.1 hg]
  case apart =>
    refine List.pairwise_append.2 ⟨h.apart, List.pairwise_singleton .., fun g hg f' hf' => ?_⟩
    obtain rfl := List.mem_singleton.1 hf'
    have hnone := h.location f'.sink
    rw [hfresh, hf.fresh, Option.none_or] at hnone
    have hall := List.find?_eq_none.1 (Option.map_eq_none_iff.1 hnone.symm) g hg
    simpa using hall
  case location =>
    intro w
    rw [hctx, sinkLocation_setSinkLocations, h.location, Option.or_assoc, List.find?_append,
      List.find?_singleton]
    by_cases hw : w ∈ f.wires <;> cases found.find? (w ∈ ·.wires) <;> simp [hw]

/-- Looking at one user locates its sink or nothing, and settles it. -/
theorem Discovered.step (h : Discovered c found s) (hnet : c.netlist.net net = .ok n)
    (huser : user ∈ n.users) (hstep : locateUser s user = .ok s') :
    (∃ found', Discovered c found' s') ∧ s'.ctx.Settled user := by
  rcases locateUser_cases hstep with ⟨rfl, hsettled⟩ |
    ⟨sink, exit, trail, t, xy, hexternal, hfresh, hfound, ht, hxy, hctx, hcount⟩
  · exact ⟨⟨found, h⟩, hsettled⟩
  · have hnone := h.location sink
    rw [hfresh] at hnone
    have hfresh₀ := (Option.or_eq_none_iff.1 hnone.symm).1
    have hexternal₀ : c.externalSink? user = .ok (some sink) := by
      rw [h.frame] at hexternal
      exact hexternal
    have hdevice : s.ctx.device = c.device := congrArg (·.device) h.frame
    rw [hdevice] at hfound ht hxy
    obtain ⟨m, hm, ht⟩ := bind_eq_ok_iff.1 ht
    obtain rfl := Except.ok.inj ht
    have hlocates : c.Locates ⟨sink, exit, trail, xy⟩ :=
      ⟨⟨net, n, user, hnet, huser, externalSink?_eq_some_iff.1 hexternal₀⟩, hfresh₀, hfound, m, hm, hxy⟩
    have hadd := h.add hlocates hfresh hctx hcount
    refine ⟨⟨_, hadd⟩, some sink, ?_, ?_⟩
    · rw [hadd.frame]
      exact hexternal₀
    · intro sink' heq
      obtain rfl := Option.some.inj heq
      rw [hctx, sinkLocation_setSinkLocations]
      simp

theorem settled_of_locateUser {other : PortRef} (h : locateUser s user = .ok s')
    (hother : s.ctx.Settled other) : s'.ctx.Settled other := by
  rcases locateUser_cases h with ⟨rfl, -⟩ | ⟨sink, _, trail, _, xy, -, -, -, -, -, hctx, -⟩
  · exact hother
  · refine hother.mono ?_ fun w hw => ?_
    · obtain ⟨places, hplaces⟩ := setSinkLocations_ctx s.ctx (sink :: trail) xy
      rw [hctx, hplaces]
    · rw [hctx, sinkLocation_setSinkLocations, Option.isSome_or, hw]
      rfl

/-! ### All users -/

theorem exists_discovered {log : Log} (h : c.findSinkLocations log = .ok s) :
    (∃ found, Discovered c found s) ∧ ∀ net ∈ c.netlist.netsByName,
      ∃ n, c.netlist.net net = .ok n ∧ ∀ user ∈ n.users, s.ctx.Settled user := by
  obtain ⟨s₁, hwalk, h⟩ := bind_eq_ok_iff.1 h
  obtain rfl := Except.ok.inj h
  -- each net is walked in turn, and in it each user
  have hnet {s s' : SinkState} {net : NetId} (hs : ∃ found, Discovered c found s)
      (h : locateNet s net = .ok s') : (∃ found, Discovered c found s') ∧
        (∃ n, c.netlist.net net = .ok n ∧ ∀ user ∈ n.users, s'.ctx.Settled user) ∧
        ∀ user, s.ctx.Settled user → s'.ctx.Settled user := by
    obtain ⟨found, hfound⟩ := hs
    obtain ⟨n, hn, husers⟩ := bind_eq_ok_iff.1 h
    rw [hfound.frame] at hn
    obtain ⟨hs', hall, hkeep⟩ := foldlM_settles (I := fun s => ∃ found, Discovered c found s)
      (Q := fun user s => s.ctx.Settled user) husers ⟨found, hfound⟩
      (fun s user s' huser ⟨found, hs⟩ hstep => hs.step hn huser hstep)
      (fun s user s' _ _ hstep other => settled_of_locateUser hstep)
    exact ⟨hs', ⟨n, hn, hall⟩, hkeep⟩
  obtain ⟨hs₁, hall, -⟩ := foldlM_settles (I := fun s => ∃ found, Discovered c found s)
    (Q := fun net s => ∃ n, c.netlist.net net = .ok n ∧ ∀ user ∈ n.users, s.ctx.Settled user)
    hwalk ⟨[], discovered_start c log⟩
    (fun s net s' _ hs hstep => ⟨(hnet hs hstep).1, (hnet hs hstep).2.1⟩)
    (fun s net s' _ hs hstep other ⟨n, hn, hsettled⟩ =>
      ⟨n, hn, fun user huser => (hnet hs hstep).2.2 user (hsettled user huser)⟩)
  obtain ⟨found, hfound⟩ := hs₁
  exact ⟨⟨found, hfound.frame, hfound.count, hfound.locates, hfound.apart, hfound.location⟩, hall⟩

theorem locateUser_of_settled (h : s.ctx.Settled user) : locateUser s user = .ok s := by
  obtain ⟨answer, hanswer, hsettled⟩ := h
  simp only [locateUser, hanswer, bind, Except.bind]
  cases answer with
  | none => rfl
  | some sink =>
    rcases hsettled sink rfl with hknown | hnone
    · simp only [hknown, if_true]
      rfl
    · by_cases hknown : (s.ctx.sinkLocation sink).isSome = true
      · simp only [hknown, if_true]
        rfl
      · simp only [hknown, if_false, hnone, Bool.false_eq_true]
        rfl

theorem foldlM_of_fixed {ε α σ : Type} {step : σ → α → Except ε σ} {xs : List α} {s : σ}
    (h : ∀ x ∈ xs, step s x = .ok s) : xs.foldlM step s = .ok s := by
  induction xs with
  | nil => rfl
  | cons x xs ih =>
    rw [List.foldlM_cons, h x (by simp)]
    exact ih fun y hy => h y (by simp [hy])

theorem findSinkLocations_of_settled (h : ∀ net ∈ c.netlist.netsByName,
      ∃ n, c.netlist.net net = .ok n ∧ ∀ user ∈ n.users, c.Settled user) (log : Log) :
    ∃ s, c.findSinkLocations log = .ok s ∧ s.ctx = c ∧ s.located = 0 := by
  have hwalk : c.netlist.netsByName.foldlM locateNet { ctx := c, log } = .ok { ctx := c, log } := by
    apply foldlM_of_fixed
    intro net hnet
    obtain ⟨n, hn, hsettled⟩ := h net hnet
    simp only [locateNet, hn, bind, Except.bind]
    exact foldlM_of_fixed fun user huser => locateUser_of_settled (hsettled user huser)
  rw [findSinkLocations, hwalk]
  exact ⟨_, rfl, rfl, rfl⟩

/-! ### Answers -/

theorem answers_locateSink {d : Device} (hs : d.HasWire sink) : Answers (d.locateSink sink)
    fun answer => ∀ exit trail, answer = some (exit, trail) → d.HasWire exit := by
  have hsearch := (Device.Wave.start_search d sink).answers_visitUphill hs
    (Device.traced_start sink) sinkSearchLimit
  refine hsearch.mono fun answer hanswer exit trail heq => ?_
  exact (hanswer.1 exit trail heq).2.1.hasWire hs

theorem answers_locateUser (hn : s.ctx.device.Named) {x : Cell}
    (hx : s.ctx.netlist.cell user.cell = .ok x) (hb : ∀ b, x.bel = some b → s.ctx.device.HasBel b) :
    Answers (locateUser s user) fun _ => True := by
  refine (answers_externalSink? hn hx hb).bind fun found hfound => ?_
  cases found with
  | none => exact answers_ok trivial
  | some sink =>
    have hsink := hfound sink rfl
    dsimp only
    split
    case isTrue => exact answers_ok trivial
    case isFalse =>
      refine (answers_locateSink hsink).bind fun place hplace => ?_
      cases place with
      | none => exact answers_ok trivial
      | some place =>
        obtain ⟨exit, trail⟩ := place
        have hexit := hplace exit trail rfl
        obtain ⟨sinkName, hsinkName, -⟩ := Device.answers_wireName hn hsink
        obtain ⟨exitName, hexitName, -⟩ := Device.answers_wireName hn hexit
        refine (Device.answers_wireTile hexit).bind fun t ht => ?_
        have hxy : s.ctx.device.tileXY t = .ok _ := if_neg (Device.HasTile.width_ne_zero ht)
        rw [hxy, hsinkName, hexitName]
        split <;> exact answers_ok trivial

theorem answers_findSinkLocations (hn : c.device.Named) (hu : c.UsersInRange) (log : Log) :
    Answers (c.findSinkLocations log) fun _ => True := by
  have frame {s s' : SinkState} {user : PortRef} (hs : ∃ places, s.ctx = { c with sinkLocations := places })
      (h : locateUser s user = .ok s') : ∃ places, s'.ctx = { c with sinkLocations := places } := by
    obtain ⟨places, hs⟩ := hs
    obtain ⟨places', hs'⟩ := locateUser_ctx h
    exact ⟨places', by rw [hs', hs]⟩
  refine Answers.bind (P := fun _ => True) ?_ fun _ _ => answers_ok trivial
  refine Answers.mono (answers_foldlM (I := fun s : SinkState =>
    ∃ places, s.ctx = { c with sinkLocations := places }) ⟨_, rfl⟩ ?_) fun _ _ => trivial
  intro s net hnet hs
  have hlt : net < c.netlist.nets.size :=
    List.mem_range.1 ((netsByName_perm c.netlist).mem_iff.1 hnet)
  have hfetch : c.netlist.net net = .ok c.netlist.nets[net] := fetch_of_lt hlt
  obtain ⟨places, hctx⟩ := hs
  rw [locateNet, hctx]
  simp only [hfetch, bind, Except.bind]
  refine answers_foldlM ⟨places, hctx⟩ fun t user huser ht => ?_
  obtain ⟨x, hx, hb⟩ := hu net _ hfetch user huser
  have hanswer : Answers (locateUser t user) fun _ => True := by
    obtain ⟨places, ht⟩ := ht
    apply answers_locateUser (x := x) <;> rw [ht] <;> assumption
  obtain ⟨t', ht', -⟩ := hanswer
  exact ⟨t', ht', frame ht ht'⟩

end Context

/-- The discovery of sinks leaves a context as it was but for new locations, each the coordinate of the
tile of an exit that was found for a sink, and it counts the sinks that it has located. A discovery that
follows at once locates none and changes nothing. As long as no cell is given a bel and no net a user of
no cell by hand, the discovery comes to an end. -/
theorem sinks_discovered {db : ChipDatabase} {d : Device} {c : Context}
    (opened : Device.ofDatabase db = .ok (.ok d)) (h : Reachable d c) :
    (∀ log s, c.findSinkLocations log = .ok s → (∃ found, Context.Discovered c found s) ∧
      ∀ log', ∃ s', s.ctx.findSinkLocations log' = .ok s' ∧ s'.ctx = s.ctx ∧ s'.located = 0) ∧
    (c.UsersInRange → ∀ log, ∃ s, c.findSinkLocations log = .ok s) ∧
    (Run (fun c a => a.KeepsSeats ∧ a.NamesCells c) { device := d } c → c.UsersInRange) := by
  refine ⟨fun log s hs => ?_, fun hu log => ?_, Run.usersInRange_of_new⟩
  · obtain ⟨⟨found, hfound⟩, hsettled⟩ := Context.exists_discovered hs
    refine ⟨⟨found, hfound⟩, fun log' => Context.findSinkLocations_of_settled ?_ log'⟩
    have hnetlist : s.ctx.netlist = c.netlist := congrArg (·.netlist) hfound.frame
    rw [hnetlist]
    exact hsettled
  · have hn := h.named (Device.opened_of_ofDatabase opened).2.named
    obtain ⟨s, hs, -⟩ := Context.answers_findSinkLocations hn hu log
    exact ⟨s, hs⟩

/-! A tile with two pads on a grid of four tiles. The wire of the second pad lies between that of the first
and the only exit, a node of which the wire in the opposite tile is the first. -/

def padsRecord : ChipRecord where
  name := "xc7a"
  generator := ""
  width := 2
  height := 2
  knownIdCount := Known.count
  extraIds := #["P0", "P1", "W0", "W1", "W2"]
  tileTypes := #[{
    typeName := 0
    bels := #[⟨Known.count, 0, 0, none, false, #[⟨Known.ident "I", 0, .input⟩], none⟩,
      ⟨Known.count + 1, 0, 1, none, false, #[⟨Known.ident "I", 1, .input⟩], none⟩]
    wires := #[⟨Known.count + 2, Known.ident "NODE_PINFEED", none, #[0], #[], #[⟨0, Known.ident "I"⟩]⟩,
      ⟨Known.count + 3, Known.ident "NODE_DEDICATED", none, #[1], #[0], #[⟨1, Known.ident "I"⟩]⟩,
      ⟨Known.count + 4, Known.ident "NODE_SINGLE", none, #[], #[1], #[]⟩]
    pips := #[⟨1, 0, none, none, .tile, none⟩, ⟨2, 1, none, none, .tile, none⟩] },
    { typeName := 0
      wires := #[⟨Known.count + 4, Known.ident "NODE_SINGLE", none, #[], #[], #[]⟩] }]
  tiles := #[⟨"T0", 0, #[], #[none, none, some 0]⟩, ⟨"T1", 1, #[], #[none]⟩,
    ⟨"T2", 1, #[], #[none]⟩, ⟨"T3", 1, #[], #[some 0]⟩]
  nodes := #[⟨Known.ident "NODE_SINGLE", #[⟨3, 0⟩, ⟨0, 2⟩]⟩]
  timing := none

/-- Both pads use one net. -/
def padsActs : List Act :=
  [.edit (.cell "a" 0), .edit (.cell "b" 0), .edit (.net "n"),
    .edit (.port 0 (Known.ident "I") .input), .edit (.port 1 (Known.ident "I") .input),
    .edit (.connect 0 (Known.ident "I") 0), .edit (.connect 1 (Known.ident "I") 0),
    .bindBel ⟨0, 0⟩ 0 .weak, .bindBel ⟨0, 1⟩ 1 .weak]

/-- The sink of the first pad is located where the exit is, and the second has its location from the
first. -/
theorem sinks_discovered_pads : ∃ db d c s, ChipDatabase.ofRecord padsRecord ⟨[]⟩ = .ok db ∧
    Device.ofDatabase db = .ok (.ok d) ∧ Reachable d c ∧ c.UsersInRange ∧
    c.findSinkLocations {} = .ok s ∧ (∃ found, Context.Discovered c found s) ∧ s.located = 1 ∧
    s.ctx.sinkLocation (.tile 0 0) = some (1, 1) ∧ s.ctx.sinkLocation (.tile 0 1) = some (1, 1) ∧
    ∃ s', s.ctx.findSinkLocations {} = .ok s' ∧ s'.ctx = s.ctx ∧ s'.located = 0 := by
  have accepted : ChipDatabase.ofRecord padsRecord ⟨[]⟩ = .ok ⟨padsRecord, ⟨[]⟩, rfl⟩ := rfl
  obtain ⟨d, c, opened, hacts, hcheck⟩ := @exists_performAll ⟨padsRecord, ⟨[]⟩, rfl⟩ padsActs
    (fun c => (c.findSinkLocations {}).toOption.any fun s => s.located = 1 ∧
      s.ctx.sinkLocation (.tile 0 0) = some (1, 1) ∧ s.ctx.sinkLocation (.tile 0 1) = some (1, 1))
    (by decide +kernel)
  have hrun : Run (fun c a => a.KeepsSeats ∧ a.NamesCells c) { device := d } c :=
    Run.start.performAll (by simp [padsActs, Act.KeepsSeats, Act.NamesCells]) hacts
  have hreach : Reachable d c := hrun.mono fun _ _ _ => trivial
  obtain ⟨hfound, -, hrange⟩ := sinks_discovered opened hreach
  obtain ⟨s, hs, hs'⟩ := exists_of_any hcheck
  obtain ⟨hcount, hfirst, hsecond⟩ := of_decide_eq_true hs'
  obtain ⟨hdiscovered, hagain⟩ := hfound {} s hs
  exact ⟨_, d, c, s, accepted, opened, hreach, hrange hrun, hs, hdiscovered, hcount, hfirst, hsecond,
    hagain {}⟩

end Interconnect
