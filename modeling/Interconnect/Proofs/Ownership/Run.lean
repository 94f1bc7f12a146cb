import Interconnect.Context.Placement
import Interconnect.Flow
import Interconnect.Proofs.Netlist.Edited
import Interconnect.Proofs.Routing.Pass
/-!
# Runs of a context

A context is asked one thing after another: to grow its netlist, to place cells, to bind and release
wires and pips, and to route. No order of these requests makes the tables of wires, of pips and of
nets disagree.
-/
namespace Interconnect

/-- What a context can be asked to do. -/
inductive Act where
  | edit (e : NetlistEdit)
  | setCell (cell : CellId) (change : Cell → Cell)
  | setNet (net : NetId) (name : String) (driver : Option PortRef) (users : List PortRef)
  | intern (name : String)
  | setDebug (on : Bool)
  | annotate (settings attrs : Std.ExtTreeMap String String)
  | applySettings (s : RunSettings)
  | bindBel (b : BelId) (cell : CellId) (strength : Strength)
  | unbindBel (b : BelId)
  | setSiteVariant (s : SiteId) (variant : Option Nat)
  | setSinkLocation (w : WireId) (xy : Int × Int)
  | locateSinks (log : Log)
  | bindWire (w : WireId) (net : NetId) (strength : Strength)
  | bindPip (p : PipId) (net : NetId) (strength : Strength)
  | unbindWire (w : WireId) (force : Bool)
  | unbindPip (p : PipId) (force : Bool)
  | route (pass : Pass) (log : Log)

namespace Act

def settle (c : Context) : Except BindError Context → Context
  | .ok c' => c'
  | .error _ => c

/-- The context after a request, whether it succeeds or not. -/
def perform (c : Context) : Act → Query Context
  | edit e => do return { c with netlist := ← c.netlist.edit e }
  | setCell cell change => .ok { c with netlist := c.netlist.modifyCell cell change }
  | setNet net name driver users =>
    .ok { c with netlist := c.netlist.modifyNet net fun n => { n with name, driver, users } }
  | intern name => .ok (c.intern name).2
  | setDebug on => .ok { c with debug := on }
  | annotate settings attrs => .ok { c with settings, attrs }
  | applySettings s => .ok ((c.applySettings s).toOption.getD c)
  | bindBel b cell strength => do return settle c (← c.bindBel b cell strength)
  | unbindBel b => do return settle c ((← c.unbindBel b).map (·.2))
  | setSiteVariant s variant => c.setSiteVariant s variant
  | setSinkLocation w xy => .ok (c.setSinkLocation w xy).2
  | locateSinks log => do return (← c.findSinkLocations log).ctx
  | bindWire w net strength => do return settle c (← c.bindWire w net strength)
  | bindPip p net strength => do return settle c (← c.bindPip p net strength)
  | unbindWire w force => do return settle c (← c.unbindWire w force)
  | unbindPip p force => do return settle c (← c.unbindPip p force)
  | route pass log => do return (← c.routePass log pass).ctx

/-- Whether a request is about wires and pips. -/
def IsRouting : Act → Prop
  | bindWire .. | bindPip .. | unbindWire .. | unbindPip .. | route .. => True
  | _ => False

/-- Whether a request places a cell or takes one off its bel. -/
def IsPlacing : Act → Prop
  | bindBel .. | unbindBel .. => True
  | _ => False

end Act

/-- From one context to another by requests each of which meets a condition where it is made. -/
inductive Run (P : Context → Act → Prop) (c : Context) : Context → Prop
  | start : Run P c c
  | step {c' c'' : Context} {a : Act} : Run P c c' → P c' a → a.perform c' = .ok c'' → Run P c c''

/-- The contexts that a new context of a device can become. -/
def Reachable (d : Device) (c : Context) : Prop := Run (fun _ _ => True) { device := d } c

theorem Run.mono {P Q : Context → Act → Prop} {c c' : Context} (h : Run P c c')
    (hPQ : ∀ c a, P c a → Q c a) : Run Q c c' := by
  induction h with
  | start => exact .start
  | step _ ha hperform ih => exact .step ih (hPQ _ _ ha) hperform

def Act.performAll (c : Context) : List Act → Query Context
  | [] => .ok c
  | a :: as => do performAll (← a.perform c) as

theorem Run.performAll {P : Context → Act → Prop} {c c' c'' : Context} {as : List Act}
    (hrun : Run P c c') (hP : ∀ c a, a ∈ as → P c a) (h : Act.performAll c' as = .ok c'') :
    Run P c c'' := by
  induction as generalizing c' with
  | nil =>
    obtain rfl := Except.ok.inj h
    exact hrun
  | cons a as ih =>
    obtain ⟨next, hnext, h⟩ := bind_eq_ok_iff.1 h
    exact ih (.step hrun (hP c' a (by simp)) hnext) (fun c b hb => hP c b (by simp [hb])) h

/-! ### Requests that leave routing alone -/

namespace Netlist

/-- One netlist has a net more than the other, or its nets have the same routing. -/
def Grown (n n' : Netlist) : Prop :=
  (∃ name, n' = (n.addNet name).2) ∨ n'.netIndex = n.netIndex ∧
    ∀ i : NetId, (n'.nets[i]?).map (·.wires) = (n.nets[i]?).map (·.wires)

/-- A name stands for a net, which no other name stands for. -/
def Indexed (n : Netlist) : Prop :=
  ∀ name i, n.netByName name = some i →
    i < n.nets.size ∧ ∀ other, n.netByName other = some i → other = name

variable {n n' : Netlist}

theorem Grown.refl (n : Netlist) : n.Grown n := Or.inr ⟨rfl, fun _ => rfl⟩

theorem grown_modifyCell (n : Netlist) (cell : CellId) (change : Cell → Cell) :
    n.Grown (n.modifyCell cell change) := Or.inr ⟨rfl, fun _ => rfl⟩

theorem Grown.indexed (hn : n.Indexed) (h : n.Grown n') : n'.Indexed := by
  intro name i hi
  rcases h with ⟨added, rfl⟩ | ⟨hindex, hnets⟩
  · have hadded (other : String) : (n.addNet added).2.netByName other =
        if other = added then some n.nets.size else n.netByName other := getElem?_insert_ite ..
    have hsize : (n.addNet added).2.nets.size = n.nets.size + 1 := Array.size_push _
    rw [hadded] at hi
    rw [hsize]
    by_cases hname : name = added
    · obtain rfl : n.nets.size = i := Option.some.inj (by rwa [if_pos hname] at hi)
      refine ⟨Nat.lt_succ_self _, fun other hother => ?_⟩
      by_contra hne
      rw [hadded, if_neg (hname ▸ hne)] at hother
      exact Nat.lt_irrefl _ (hn other _ hother).1
    · rw [if_neg hname] at hi
      obtain ⟨hlt, hunique⟩ := hn name i hi
      refine ⟨Nat.lt_succ_of_lt hlt, fun other hother => ?_⟩
      rw [hadded] at hother
      by_cases heq : other = added
      · rw [if_pos heq] at hother
        exact absurd (Option.some.inj hother) (Nat.ne_of_gt hlt)
      · exact hunique other (by rwa [if_neg heq] at hother)
  · have hsame (other : String) : n'.netByName other = n.netByName other := by
      rw [netByName, netByName, hindex]
    rw [hsame] at hi
    obtain ⟨hlt, hunique⟩ := hn name i hi
    refine ⟨?_, fun other hother => hunique other (hsame other ▸ hother)⟩
    have hwires := hnets i
    rw [Array.getElem?_eq_getElem hlt] at hwires
    obtain ⟨net, hnet, _⟩ := Option.map_eq_some_iff.1 hwires
    exact (Array.getElem?_eq_some_iff.1 hnet).1

theorem wires_modifyNet {change : Net → Net} (n : Netlist) (i j : NetId)
    (hchange : ∀ net, (change net).wires = net.wires) :
    ((n.modifyNet i change).nets[j]?).map (·.wires) = (n.nets[j]?).map (·.wires) := by
  rw [modifyNet, Array.getElem?_modify]
  by_cases hij : i = j
  · rw [if_pos hij, Option.map_map]
    exact congrArg (Option.map · _) (funext hchange)
  · rw [if_neg hij]

theorem edit_grown {e : NetlistEdit} (h : n.edit e = .ok n') : n.Grown n' := by
  cases edited_of_edit h with
  | refused => exact .refl _
  | cell => exact Or.inr ⟨rfl, fun _ => rfl⟩
  | @net name => exact Or.inl ⟨name, rfl⟩
  | port => exact grown_modifyCell ..
  | @connect c p i dir =>
    exact Or.inr ⟨rfl, fun j => wires_modifyNet (n.setPort ..) i j fun net => net.wires_attach ..⟩

end Netlist

/-- Both contexts say the same of wires and pips. -/
structure Context.SameRouting (c c' : Context) : Prop where
  wires : c'.wireHolds = c.wireHolds
  pips : c'.pipHolds = c.pipHolds
  netlist : c.netlist.Grown c'.netlist
  dst : ∀ p, c'.device.pipDstWire p = c.device.pipDstWire p
  blacklist : ∀ p, c'.device.isBlacklisted p = c.device.isBlacklisted p

namespace Context

variable {c c' : Context}

theorem SameRouting.entry (h : c.SameRouting c') (net : NetId) (w : WireId) :
    c'.entry net w = c.entry net w := by
  rcases h.netlist with ⟨name, hn⟩ | ⟨-, hnets⟩
  · simp only [Context.entry, hn, Netlist.addNet, Array.getElem?_push]
    by_cases hnet : net = c.netlist.nets.size <;> simp [hnet]
  · have hwires := congrArg (fun x : Option (Std.ExtTreeMap WireId RouteEntry) => x.bind (·[w]?))
      (hnets net)
    simpa only [Context.entry, Option.bind_map, Function.comp_def] using hwires

theorem SameRouting.coherent (hc : c.Coherent) (h : c.SameRouting c') : c'.Coherent := by
  have hwire (w : WireId) : c'.wireBinding w = c.wireBinding w := by
    rw [wireBinding, wireBinding, h.wires]
  have hpip (p : PipId) : c'.pipBinding p = c.pipBinding p := by
    rw [pipBinding, pipBinding, h.pips]
  have hdriving (net : NetId) (w : WireId) : c'.drivingPip net w = c.drivingPip net w := by
    rw [drivingPip_eq, drivingPip_eq, h.entry]
  refine ⟨?_, ?_, ?_, ?_, ?_⟩
  · intro w net s
    rw [hwire, h.entry]
    exact hc.wire_iff w net s
  · intro p net
    simp only [pipNet, hpip, hdriving]
    exact hc.pip_iff p net
  · intro net w p hd
    rw [h.dst]
    exact hc.leads net w p (hdriving net w ▸ hd)
  · intro p w held holder hp hdst hw
    rw [hpip] at hp
    rw [h.dst] at hdst
    rw [hwire] at hw
    exact hc.strength_le p w held holder hp hdst hw
  · intro p hp
    rw [hpip] at hp
    rw [h.blacklist]
    exact hc.usable p hp

theorem coherent_new (d : Device) : ({ device := d } : Context).Coherent := by
  have hwire (w : WireId) : ({ device := d } : Context).wireBinding w = none := rfl
  have hpip (p : PipId) : ({ device := d } : Context).pipBinding p = none := rfl
  have hentry (net : NetId) (w : WireId) : ({ device := d } : Context).entry net w = none := rfl
  refine ⟨?_, ?_, ?_, ?_, ?_⟩
  · intro w net s
    simp [hwire, hentry]
  · intro p net
    simp [pipNet, hpip, drivingPip_eq, hentry]
  · intro net w p hd
    simp [drivingPip_eq, hentry] at hd
  · intro p w held holder hp
    simp [hpip] at hp
  · intro p hp
    exact absurd (hpip p) hp

/-! Locating sinks changes nothing but their places. -/

theorem setSinkLocation_ctx (c : Context) (w : WireId) (xy : Int × Int) :
    ∃ places, (c.setSinkLocation w xy).2 = { c with sinkLocations := places } := by
  rw [setSinkLocation]
  split
  · exact ⟨_, rfl⟩
  · exact ⟨_, rfl⟩

theorem setSinkLocations_ctx (c : Context) (wires : List WireId) (xy : Int × Int) :
    ∃ places, c.setSinkLocations wires xy = { c with sinkLocations := places } := by
  induction wires generalizing c with
  | nil => exact ⟨_, rfl⟩
  | cons w ws ih =>
    obtain ⟨first, hfirst⟩ := setSinkLocation_ctx c w xy
    obtain ⟨places, hplaces⟩ := ih { c with sinkLocations := first }
    refine ⟨places, ?_⟩
    rw [setSinkLocations, List.foldl_cons, hfirst]
    exact hplaces

/-- A user needs no sink outside the logic tiles, or its sink has a location, or none can be found. -/
def Settled (c : Context) (user : PortRef) : Prop :=
  ∃ found, c.externalSink? user = .ok found ∧ ∀ sink, found = some sink →
    (c.sinkLocation sink).isSome = true ∨ c.device.locateSink sink = .ok none

theorem locateUser_cases {s s' : SinkState} {user : PortRef} (h : locateUser s user = .ok s') :
    s' = s ∧ s.ctx.Settled user ∨ ∃ sink exit trail t xy,
      s.ctx.externalSink? user = .ok (some sink) ∧ s.ctx.sinkLocation sink = none ∧
      s.ctx.device.locateSink sink = .ok (some (exit, trail)) ∧ s.ctx.device.wireTile exit = .ok t ∧
      s.ctx.device.tileXY t = .ok xy ∧ s'.ctx = s.ctx.setSinkLocations (sink :: trail) xy ∧
      s'.located = s.located + 1 := by
  obtain ⟨external, hexternal, h⟩ := bind_eq_ok_iff.1 h
  cases external with
  | none =>
    obtain rfl := Except.ok.inj h
    exact .inl ⟨rfl, none, hexternal, nofun⟩
  | some sink =>
    by_cases hknown : (s.ctx.sinkLocation sink).isSome = true
    · simp only [if_pos hknown] at h
      obtain rfl := Except.ok.inj h
      refine .inl ⟨rfl, some sink, hexternal, fun sink' heq => .inl ?_⟩
      exact Option.some.inj heq ▸ hknown
    · simp only [if_neg hknown] at h
      obtain ⟨found, hfound, h⟩ := bind_eq_ok_iff.1 h
      cases found with
      | none =>
        obtain rfl := Except.ok.inj h
        refine .inl ⟨rfl, some sink, hexternal, fun sink' heq => .inr ?_⟩
        exact Option.some.inj heq ▸ hfound
      | some found =>
        obtain ⟨exit, trail⟩ := found
        obtain ⟨t, ht, h⟩ := bind_eq_ok_iff.1 h
        obtain ⟨xy, hxy, h⟩ := bind_eq_ok_iff.1 h
        have hfresh : s.ctx.sinkLocation sink = none := by simpa using hknown
        refine .inr ⟨sink, exit, trail, t, xy, hexternal, hfresh, hfound, ht, hxy, ?_⟩
        -- a report may be made, and changes only the log
        split at h
        · obtain ⟨sinkName, _, h⟩ := bind_eq_ok_iff.1 h
          obtain ⟨exitName, _, h⟩ := bind_eq_ok_iff.1 h
          obtain rfl := Except.ok.inj h
          exact ⟨rfl, rfl⟩
        · obtain rfl := Except.ok.inj h
          exact ⟨rfl, rfl⟩

theorem locateUser_ctx {s s' : SinkState} {user : PortRef} (h : locateUser s user = .ok s') :
    ∃ places, s'.ctx = { s.ctx with sinkLocations := places } := by
  rcases locateUser_cases h with ⟨rfl, -⟩ | ⟨sink, _, trail, _, xy, -, -, -, -, -, hctx, -⟩
  · exact ⟨_, rfl⟩
  · rw [hctx]
    exact setSinkLocations_ctx s.ctx (sink :: trail) xy

theorem findSinkLocations_ctx {log : Log} {s : SinkState} (h : c.findSinkLocations log = .ok s) :
    ∃ places, s.ctx = { c with sinkLocations := places } := by
  obtain ⟨s₁, hfold, h⟩ := bind_eq_ok_iff.1 h
  obtain rfl := Except.ok.inj h
  have hs₁ : ∃ places, s₁.ctx = { c with sinkLocations := places } := by
    refine foldlM_keeps (I := fun s => ∃ places, s.ctx = { c with sinkLocations := places }) ?_
      ⟨_, rfl⟩ hfold
    rintro s net s' - hs hnet
    obtain ⟨n, _, husers⟩ := bind_eq_ok_iff.1 hnet
    refine foldlM_keeps (I := fun s => ∃ places, s.ctx = { c with sinkLocations := places }) ?_
      hs husers
    rintro t user t' - ⟨places, ht⟩ huser
    obtain ⟨places', ht'⟩ := locateUser_ctx huser
    exact ⟨places', by rw [ht', ht]⟩
  exact hs₁

/-! Placing cells changes nothing but cells and bels. -/

theorem bindBel_eq {b : BelId} {cell : CellId} {strength : Strength}
    (h : c.bindBel b cell strength = .ok (.ok c')) :
    ∃ info x, c.device.bel b = .ok info ∧ (c.belCells[b]?).filter (· ≠ cell) = none ∧
      c.netlist.cell cell = .ok x ∧ c' = { c with
        belCells := (match x.bel.filter (· ≠ b) with
          | some old => c.belCells.erase old
          | none => c.belCells).insert b cell
        netlist := c.netlist.modifyCell cell fun x => { x with bel := some b, strength } } := by
  obtain ⟨holder, hholder, h⟩ := bind_eq_ok_iff.1 h
  obtain ⟨info, hinfo, hholder⟩ := bind_eq_ok_iff.1 hholder
  obtain rfl := Except.ok.inj hholder
  cases hother : (c.belCells[b]?).filter (· ≠ cell) with
  | some other =>
    simp only [hother] at h
    cases Except.ok.inj h
  | none =>
    simp only [hother] at h
    obtain ⟨x, hx, h⟩ := bind_eq_ok_iff.1 h
    exact ⟨info, x, hinfo, rfl, hx, (Except.ok.inj (Except.ok.inj h)).symm⟩

theorem unbindBel_eq {b : BelId} {cell : CellId} (h : c.unbindBel b = .ok (.ok (cell, c'))) :
    c.belCells[b]? = some cell ∧
      ∃ x, c.netlist.cell cell = .ok x ∧ x.strength ≠ .locked ∧ c' = { c with
        belCells := c.belCells.erase b
        netlist := c.netlist.modifyCell cell fun x => { x with bel := none } } := by
  obtain ⟨holder, hholder, h⟩ := bind_eq_ok_iff.1 h
  obtain ⟨info, -, hholder⟩ := bind_eq_ok_iff.1 hholder
  obtain rfl := Except.ok.inj hholder
  cases hcell : c.belCells[b]? with
  | none =>
    simp only [hcell] at h
    obtain ⟨name, _, h⟩ := bind_eq_ok_iff.1 h
    simp [pure, Except.pure] at h
  | some holder =>
    simp only [hcell] at h
    obtain ⟨x, hx, h⟩ := bind_eq_ok_iff.1 h
    split at h
    · obtain ⟨name, _, h⟩ := bind_eq_ok_iff.1 h
      simp [pure, Except.pure] at h
    · obtain ⟨rfl, rfl⟩ := Prod.mk.inj (Except.ok.inj (Except.ok.inj h))
      exact ⟨rfl, x, hx, ‹_›, rfl⟩

/-- Both contexts say the same of everything but settings, site variants and sink locations. -/
structure SameBoard (c c' : Context) : Prop where
  device : c'.device = c.device
  netlist : c'.netlist = c.netlist
  wires : c'.wireHolds = c.wireHolds
  pips : c'.pipHolds = c.pipHolds
  bels : c'.belCells = c.belCells

end Context

namespace Act

variable {c c' : Context} {a : Act}

private theorem settle_cases {answer : Query (Except BindError Context)}
    (h : (do return settle c (← answer)) = Except.ok c') : c' = c ∨ answer = .ok (.ok c') := by
  obtain ⟨result, hresult, h⟩ := bind_eq_ok_iff.1 h
  obtain rfl := Except.ok.inj h
  cases result with
  | error e => exact Or.inl rfl
  | ok c' => exact Or.inr hresult

theorem placing_cases (ha : a.IsPlacing) (h : a.perform c = .ok c') :
    c' = c ∨
    (∃ b cell s, a = .bindBel b cell s ∧ c.bindBel b cell s = .ok (.ok c')) ∨
    ∃ b cell, a = .unbindBel b ∧ c.unbindBel b = .ok (.ok (cell, c')) := by
  cases a with
  | bindBel b cell s => exact (settle_cases h).imp_right fun h => .inl ⟨b, cell, s, rfl, h⟩
  | unbindBel b =>
    obtain ⟨answer, hanswer, h⟩ := bind_eq_ok_iff.1 h
    obtain rfl := Except.ok.inj h
    cases answer with
    | error e => exact .inl rfl
    | ok found => exact .inr (.inr ⟨b, found.1, rfl, hanswer⟩)
  | _ => exact ha.elim

/-- A request about neither routing nor placement rewrites the netlist or registers a name. -/
theorem plain_cases (hr : ¬ a.IsRouting) (hp : ¬ a.IsPlacing) (h : a.perform c = .ok c') :
    c.SameBoard c' ∨
    (∃ e n, c.netlist.edit e = .ok n ∧ c' = { c with netlist := n }) ∨
    (∃ cell change, a = .setCell cell change ∧
      c' = { c with netlist := c.netlist.modifyCell cell change }) ∨
    (∃ net name driver users, a = .setNet net name driver users ∧
      c' = { c with netlist := c.netlist.modifyNet net fun n => { n with name, driver, users } }) ∨
    ∃ name, c' = (c.intern name).2 := by
  cases a with
  | edit e =>
    obtain ⟨n, hn, h⟩ := bind_eq_ok_iff.1 h
    exact .inr (.inl ⟨e, n, hn, (Except.ok.inj h).symm⟩)
  | setCell cell change =>
    exact .inr (.inr (.inl ⟨cell, change, rfl, (Except.ok.inj h).symm⟩))
  | setNet net name driver users =>
    obtain rfl := Except.ok.inj h
    exact .inr (.inr (.inr (.inl ⟨net, name, driver, users, rfl, rfl⟩)))
  | intern name => exact .inr (.inr (.inr (.inr ⟨name, (Except.ok.inj h).symm⟩)))
  | setDebug | annotate =>
    obtain rfl := Except.ok.inj h
    exact .inl ⟨rfl, rfl, rfl, rfl, rfl⟩
  | applySettings s =>
    obtain rfl := Except.ok.inj h
    cases hs : c.applySettings s with
    | error e => exact .inl ⟨rfl, rfl, rfl, rfl, rfl⟩
    | ok c' =>
      obtain ⟨placer, _, h⟩ := bind_eq_ok_iff.1 hs
      obtain rfl := Except.ok.inj h
      exact .inl ⟨rfl, rfl, rfl, rfl, rfl⟩
  | setSiteVariant s variant =>
    obtain ⟨_, _, h⟩ := bind_eq_ok_iff.1 h
    obtain rfl := Except.ok.inj h
    exact .inl ⟨rfl, rfl, rfl, rfl, rfl⟩
  | setSinkLocation w xy =>
    obtain rfl := Except.ok.inj h
    obtain ⟨places, hplaces⟩ := Context.setSinkLocation_ctx c w xy
    rw [hplaces]
    exact .inl ⟨rfl, rfl, rfl, rfl, rfl⟩
  | locateSinks log =>
    obtain ⟨s, hs, h⟩ := bind_eq_ok_iff.1 h
    obtain rfl := Except.ok.inj h
    obtain ⟨places, hplaces⟩ := Context.findSinkLocations_ctx hs
    rw [hplaces]
    exact .inl ⟨rfl, rfl, rfl, rfl, rfl⟩
  | bindBel | unbindBel => exact absurd trivial hp
  | bindWire | bindPip | unbindWire | unbindPip | route => exact absurd trivial hr

theorem perform_sameRouting (ha : ¬ a.IsRouting) (h : a.perform c = .ok c') :
    c.SameRouting c' := by
  by_cases hp : a.IsPlacing
  · rcases placing_cases hp h with rfl | ⟨b, cell, s, -, hbound⟩ | ⟨b, cell, -, hleft⟩
    · exact ⟨rfl, rfl, .refl _, fun _ => rfl, fun _ => rfl⟩
    · obtain ⟨_, _, -, -, -, rfl⟩ := Context.bindBel_eq hbound
      exact ⟨rfl, rfl, Netlist.grown_modifyCell .., fun _ => rfl, fun _ => rfl⟩
    · obtain ⟨-, _, -, -, rfl⟩ := Context.unbindBel_eq hleft
      exact ⟨rfl, rfl, Netlist.grown_modifyCell .., fun _ => rfl, fun _ => rfl⟩
  · rcases plain_cases ha hp h with hsame | ⟨e, n, hn, rfl⟩ | ⟨cell, change, -, rfl⟩ |
      ⟨net, name, driver, users, -, rfl⟩ | ⟨name, rfl⟩
    · refine ⟨hsame.wires, hsame.pips, ?_, fun p => ?_, fun p => ?_⟩
      · rw [hsame.netlist]
        exact .refl _
      · rw [hsame.device]
      · rw [hsame.device]
    · exact ⟨rfl, rfl, Netlist.edit_grown hn, fun _ => rfl, fun _ => rfl⟩
    · exact ⟨rfl, rfl, Netlist.grown_modifyCell .., fun _ => rfl, fun _ => rfl⟩
    · exact ⟨rfl, rfl, Or.inr ⟨rfl, fun j => Netlist.wires_modifyNet _ net j fun _ => rfl⟩,
        fun _ => rfl, fun _ => rfl⟩
    · exact ⟨rfl, rfl, .refl _, fun _ => rfl, fun _ => rfl⟩

/-- A request about one wire or pip that is granted, and what comes of it. -/
inductive Granted (c c' : Context) : Act → Prop
  | bindWire {w : WireId} {net : NetId} {strength : Strength} :
    c.bindWire w net strength = .ok (.ok c') → Granted c c' (.bindWire w net strength)
  | bindPip {p : PipId} {net : NetId} {strength : Strength} :
    c.bindPip p net strength = .ok (.ok c') → Granted c c' (.bindPip p net strength)
  | unbindWire {w : WireId} {force : Bool} :
    c.unbindWire w force = .ok (.ok c') → Granted c c' (.unbindWire w force)
  | unbindPip {p : PipId} {force : Bool} :
    c.unbindPip p force = .ok (.ok c') → Granted c c' (.unbindPip p force)

/-- A request about wires and pips is refused, or granted, or it is a pass. -/
theorem perform_cases (ha : a.IsRouting) (h : a.perform c = .ok c') :
    c' = c ∨ a.Granted c c' ∨
      ∃ pass log o, a = .route pass log ∧ c.routePass log pass = .ok o ∧ o.ctx = c' := by
  cases a with
  | bindWire w net s => exact (settle_cases h).imp_right fun h => Or.inl (.bindWire h)
  | bindPip p net s => exact (settle_cases h).imp_right fun h => Or.inl (.bindPip h)
  | unbindWire w force => exact (settle_cases h).imp_right fun h => Or.inl (.unbindWire h)
  | unbindPip p force => exact (settle_cases h).imp_right fun h => Or.inl (.unbindPip h)
  | route pass log =>
    obtain ⟨o, ho, h⟩ := bind_eq_ok_iff.1 h
    exact Or.inr (Or.inr ⟨pass, log, o, rfl, ho, Except.ok.inj h⟩)
  | edit | setCell | setNet | intern | setDebug | annotate | applySettings | bindBel | unbindBel
  | setSiteVariant | setSinkLocation | locateSinks => exact ha.elim

theorem Granted.change (hc : c.Coherent) (h : a.Granted c c') :
    c'.Coherent ∧ ∃ w t, c.Change c' w t := by
  cases h with
  | bindWire h =>
    obtain ⟨_, _, hchange⟩ := Context.bindWire_change hc h
    exact ⟨hc.bindWire h, _, _, hchange⟩
  | bindPip h =>
    obtain ⟨_, _, _, _, _, _, hchange⟩ := Context.bindPip_change hc h
    exact ⟨hc.bindPip h, _, _, hchange⟩
  | unbindWire h =>
    obtain ⟨_, _, _, hchange⟩ := Context.unbindWire_change hc h
    exact ⟨hc.unbindWire h, _, _, hchange⟩
  | unbindPip h =>
    obtain ⟨_, _, _, _, _, _, hchange⟩ := Context.unbindPip_change hc h
    exact ⟨hc.unbindPip h, _, _, hchange⟩

theorem perform_routing (hc : c.Coherent) (ha : a.IsRouting) (h : a.perform c = .ok c') :
    c'.Coherent ∧ c'.unrouted = c.unrouted := by
  rcases perform_cases ha h with rfl | hgranted | ⟨pass, log, o, rfl, ho, rfl⟩
  · exact ⟨hc, rfl⟩
  · obtain ⟨hc', w, t, hchange⟩ := hgranted.change hc
    exact ⟨hc', hchange.unrouted⟩
  · have hleft := Context.routePass_keeps (Pass.keeps_true pass c) hc trivial ho
    exact ⟨hleft.1, hleft.2.1⟩

/-- No request changes the device, except that one may register a name. -/
theorem perform_device (hc : c.Coherent) (h : a.perform c = .ok c') :
    c'.device = c.device ∨ ∃ name, c'.device = (c.device.intern name).2 := by
  by_cases hr : a.IsRouting
  · exact Or.inl (Context.device_of_unrouted (perform_routing hc hr h).2)
  by_cases hp : a.IsPlacing
  · rcases placing_cases hp h with rfl | ⟨b, cell, s, -, hbound⟩ | ⟨b, cell, -, hleft⟩
    · exact Or.inl rfl
    · obtain ⟨_, _, -, -, -, rfl⟩ := Context.bindBel_eq hbound
      exact Or.inl rfl
    · obtain ⟨-, _, -, -, rfl⟩ := Context.unbindBel_eq hleft
      exact Or.inl rfl
  · rcases plain_cases hr hp h with hsame | ⟨e, n, -, rfl⟩ | ⟨cell, change, -, rfl⟩ |
      ⟨net, name, driver, users, -, rfl⟩ | ⟨name, rfl⟩
    · exact Or.inl hsame.device
    · exact Or.inl rfl
    · exact Or.inl rfl
    · exact Or.inl rfl
    · exact Or.inr ⟨name, rfl⟩

theorem perform_apart (hc : c.Coherent) (h : a.perform c = .ok c') :
    (c'.sinkLocations = c.sinkLocations ∨
      (∃ w xy, a = .setSinkLocation w xy ∧ c' = (c.setSinkLocation w xy).2) ∨
      ∃ log s, a = .locateSinks log ∧ c.findSinkLocations log = .ok s ∧ s.ctx = c') ∧
    (c'.estimator = c.estimator ∧ c'.ripupPenalty = c.ripupPenalty ∨
      ∃ s, a = .applySettings s ∧ c.applySettings s = .ok c') := by
  by_cases hr : a.IsRouting
  · have hu := (perform_routing hc hr h).2
    exact ⟨.inl (congrArg (·.sinkLocations) hu),
      .inl ⟨congrArg (·.estimator) hu, congrArg (·.ripupPenalty) hu⟩⟩
  by_cases hp : a.IsPlacing
  · rcases placing_cases hp h with rfl | ⟨b, cell, s, -, hbound⟩ | ⟨b, cell, -, hleft⟩
    · exact ⟨.inl rfl, .inl ⟨rfl, rfl⟩⟩
    · obtain ⟨_, _, -, -, -, rfl⟩ := Context.bindBel_eq hbound
      exact ⟨.inl rfl, .inl ⟨rfl, rfl⟩⟩
    · obtain ⟨-, _, -, -, rfl⟩ := Context.unbindBel_eq hleft
      exact ⟨.inl rfl, .inl ⟨rfl, rfl⟩⟩
  cases a with
  | locateSinks log =>
    obtain ⟨s, hs, h⟩ := bind_eq_ok_iff.1 h
    obtain rfl := Except.ok.inj h
    obtain ⟨places, hplaces⟩ := Context.findSinkLocations_ctx hs
    refine ⟨.inr (.inr ⟨log, s, rfl, hs, rfl⟩), .inl ?_⟩
    rw [hplaces]
    exact ⟨rfl, rfl⟩
  | setSinkLocation w xy =>
    obtain rfl := Except.ok.inj h
    obtain ⟨places, hplaces⟩ := Context.setSinkLocation_ctx c w xy
    refine ⟨.inr (.inl ⟨w, xy, rfl, rfl⟩), .inl ?_⟩
    rw [hplaces]
    exact ⟨rfl, rfl⟩
  | applySettings s =>
    obtain rfl := Except.ok.inj h
    cases hs : c.applySettings s with
    | error e => exact ⟨.inl rfl, .inl ⟨rfl, rfl⟩⟩
    | ok tuned =>
      obtain ⟨placer, -, htuned⟩ := bind_eq_ok_iff.1 hs
      refine ⟨.inl ?_, .inr ⟨s, rfl, hs⟩⟩
      obtain rfl := Except.ok.inj htuned
      rfl
  | edit | setSiteVariant =>
    obtain ⟨_, -, h⟩ := bind_eq_ok_iff.1 h
    obtain rfl := Except.ok.inj h
    exact ⟨.inl rfl, .inl ⟨rfl, rfl⟩⟩
  | setCell | setNet | intern | setDebug | annotate =>
    obtain rfl := Except.ok.inj h
    exact ⟨.inl rfl, .inl ⟨rfl, rfl⟩⟩
  | bindBel | unbindBel => exact absurd trivial hp
  | bindWire | bindPip | unbindWire | unbindPip | route => exact absurd trivial hr

theorem perform_indexed (hc : c.Coherent) (hn : c.netlist.Indexed) (h : a.perform c = .ok c') :
    c'.netlist.Indexed := by
  by_cases ha : a.IsRouting
  · have hu := (perform_routing hc ha h).2
    intro name i
    rw [Context.netByName_of_unrouted hu, Context.size_nets_of_unrouted hu]
    exact hn name i
  · exact (perform_sameRouting ha h).netlist.indexed hn

theorem perform_coherent (hc : c.Coherent) (h : a.perform c = .ok c') : c'.Coherent := by
  by_cases ha : a.IsRouting
  · exact (perform_routing hc ha h).1
  · exact (perform_sameRouting ha h).coherent hc

end Act

theorem Run.coherent {P : Context → Act → Prop} {c c' : Context} (h : Run P c c')
    (hc : c.Coherent) : c'.Coherent := by
  induction h with
  | start => exact hc
  | step _ _ hstep ih => exact Act.perform_coherent ih hstep

theorem Reachable.coherent {d : Device} {c : Context} (h : Reachable d c) : c.Coherent :=
  Run.coherent h (Context.coherent_new d)

theorem Reachable.indexed {d : Device} {c : Context} (h : Reachable d c) : c.netlist.Indexed := by
  induction h with
  | start =>
    intro name i hi
    cases hi
  | step hrun _ hstep ih =>
    exact Act.perform_indexed (hrun.coherent (Context.coherent_new d)) ih hstep

theorem Reachable.device {d : Device} {c : Context} (h : Reachable d c) :
    ∃ names, c.device = { d with ids := d.ids.internAll names } := by
  induction h with
  | start => exact ⟨[], rfl⟩
  | step hrun _ hstep ih =>
    obtain ⟨names, hdevice⟩ := ih
    rcases Act.perform_device (hrun.coherent (Context.coherent_new d)) hstep with heq | ⟨name, heq⟩
    · exact ⟨names, heq.trans hdevice⟩
    · have hmore : d.ids.internAll (names ++ [name]) = ((d.ids.internAll names).intern name).2 :=
        List.foldl_append
      refine ⟨names ++ [name], ?_⟩
      rw [heq, hdevice, hmore]
      rfl

/-! ### What the tables of a reachable context say -/

namespace Context

variable {c : Context} {net : NetId} {w : WireId} {p q : PipId}

theorem Coherent.pip_unique (hc : c.Coherent) (hp : c.pipNet p ≠ none) (hq : c.pipNet q ≠ none)
    (hpw : c.device.pipDstWire p = .ok w) (hqw : c.device.pipDstWire q = .ok w) : p = q := by
  obtain ⟨netp, hp⟩ := Option.ne_none_iff_exists'.1 hp
  obtain ⟨netq, hq⟩ := Option.ne_none_iff_exists'.1 hq
  obtain ⟨x, hx⟩ := (hc.pip_iff p netp).1 hp
  obtain ⟨y, hy⟩ := (hc.pip_iff q netq).1 hq
  obtain rfl : x = w := hc.eq_of_leads hx hpw
  obtain rfl : y = x := hc.eq_of_leads hy hqw
  have hdp : c.driver y = some p := hc.driver_eq_some_iff.2 ⟨netp, hx⟩
  have hdq : c.driver y = some q := hc.driver_eq_some_iff.2 ⟨netq, hy⟩
  exact Option.some.inj (hdp.symm.trans hdq)

theorem Coherent.holder_of_pipBinding (hc : c.Coherent) {held : Hold}
    (h : c.pipBinding p = some held) :
    ∃ w holder, c.device.pipDstWire p = .ok w ∧ c.wireBinding w = some holder ∧
      held.net = holder.net ∧ held.strength ≤ holder.strength := by
  obtain ⟨w, hw⟩ := (hc.pip_iff p held.net).1 (by rw [pipNet, h]; rfl)
  obtain ⟨s, hs⟩ := hc.wireBinding_of_drivingPip hw
  have hdst := hc.leads held.net w p hw
  exact ⟨w, _, hdst, hs, rfl, hc.strength_le p w held _ h hdst hs⟩

theorem Coherent.pipBinding_of_blacklisted (hc : c.Coherent)
    (h : c.device.isBlacklisted p = .ok true) : c.pipBinding p = none := by
  by_contra hne
  have hfalse := hc.usable p hne
  rw [h] at hfalse
  cases hfalse

end Context

/-- In every reachable context the record of a wire, the routing of its holder and the record of the
pip that drives it say the same, a pip is held no more strongly than the wire that it drives, and an
excluded pip is neither held nor available. -/
theorem ownership_coherent {d : Device} {c : Context} (h : Reachable d c) :
    (∀ w net s, c.wireBinding w = some ⟨net, s⟩ ↔ ∃ e, c.entry net w = some e ∧ e.strength = s) ∧
    (∀ w net other, c.wireNet w = some net → other ≠ net → c.entry other w = none) ∧
    (∀ p net, c.pipNet p = some net ↔ ∃ w e, c.device.pipDstWire p = .ok w ∧
      c.entry net w = some e ∧ e.pip = some p) ∧
    (∀ net w e p, c.entry net w = some e → e.pip = some p → c.device.pipDstWire p = .ok w) ∧
    (∀ p q w, c.pipNet p ≠ none → c.pipNet q ≠ none → c.device.pipDstWire p = .ok w →
      c.device.pipDstWire q = .ok w → p = q) ∧
    (∀ p held, c.pipBinding p = some held → ∃ w holder, c.device.pipDstWire p = .ok w ∧
      c.wireBinding w = some holder ∧ held.net = holder.net ∧ held.strength ≤ holder.strength) ∧
    (∀ p, c.device.isBlacklisted p = .ok true → c.pipBinding p = none ∧
      c.isPipFree p = .ok false ∧ ∀ net, c.isPipFreeFor p net = .ok false) := by
  have hc := h.coherent
  have hdriving (net : NetId) (w : WireId) (p : PipId) :
      c.drivingPip net w = some p ↔ ∃ e, c.entry net w = some e ∧ e.pip = some p := by
    rw [Context.drivingPip_eq, Option.bind_eq_some_iff]
  refine ⟨?_, ?_, ?_, ?_, ?_, ?_, ?_⟩
  · intro w net s
    rw [hc.wire_iff, Option.map_eq_some_iff]
  · intro w net other hw hne
    apply hc.entry_eq_none
    rw [hw]
    exact fun heq => hne (Option.some.inj heq).symm
  · intro p net
    rw [hc.pip_iff]
    constructor
    · rintro ⟨w, hw⟩
      obtain ⟨e, he, hep⟩ := (hdriving net w p).1 hw
      exact ⟨w, e, hc.leads net w p hw, he, hep⟩
    · rintro ⟨w, e, _, he, hep⟩
      exact ⟨w, (hdriving net w p).2 ⟨e, he, hep⟩⟩
  · intro net w e p he hep
    exact hc.leads net w p ((hdriving net w p).2 ⟨e, he, hep⟩)
  · intro p q w
    exact hc.pip_unique
  · intro p held
    exact hc.holder_of_pipBinding
  · intro p hp
    refine ⟨hc.pipBinding_of_blacklisted hp, ?_, fun net => ?_⟩
    · rw [Context.isPipFree, hp]
      rfl
    · rw [Context.isPipFreeFor, hp]
      rfl

/-! A tile with two pips that drive one wire. -/

/-- Wires 0 and 2 drive wire 1 through pips 0 and 1. -/
def forkRecord : ChipRecord where
  name := "xc7a"
  generator := ""
  width := 1
  height := 1
  knownIdCount := Known.count
  extraIds := #[]
  tileTypes := #[{
    typeName := 0
    wires := #[⟨0, 0, none, #[], #[0], #[]⟩, ⟨0, 0, none, #[0, 1], #[], #[]⟩,
      ⟨0, 0, none, #[], #[1], #[]⟩]
    pips := #[⟨0, 1, none, none, .tile, none⟩, ⟨2, 1, none, none, .tile, none⟩] }]
  tiles := #[⟨"T", 0, #[], #[none, none, none]⟩]
  nodes := #[]
  timing := none

def fork : Device where
  db := ⟨forkRecord, ⟨[]⟩, rfl⟩
  ids := .empty
  tileIndex := ∅
  siteIndex := ∅
  pinSites := ∅
  blacklist := .empty

theorem ownership_coherent_fork : ∃ c, Reachable fork c ∧ c.pipNet ⟨0, 0⟩ = some 0 ∧
    ∃ w e, c.device.pipDstWire ⟨0, 0⟩ = .ok w ∧ c.entry 0 w = some e ∧ e.pip = some ⟨0, 0⟩ := by
  obtain ⟨c, hc, hp⟩ : ∃ c, Reachable fork c ∧ c.pipNet ⟨0, 0⟩ = some 0 :=
    ⟨_, Run.step (a := .bindPip ⟨0, 0⟩ 0 .weak)
      (Run.step (a := .edit (.net "n")) .start trivial rfl) trivial rfl, rfl⟩
  exact ⟨c, hc, hp, ((ownership_coherent hc).2.2.1 ⟨0, 0⟩ 0).1 hp⟩

end Interconnect
