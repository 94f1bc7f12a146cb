import Interconnect.Flow
import Interconnect.Proofs.Device.Member
import Interconnect.Proofs.Renumbering.Pass
import Interconnect.Proofs.Renumbering.Sinks
import Interconnect.Proofs.Routing.Tree
/-!
# Insertion order does not matter

The passes before general routing look for nets by name, and visit all nets in the order of their
names. Two contexts that hold one design, built in different orders, are so routed alike.
-/
namespace Interconnect

variable {r : Renumbering} {c c' : Context}

/-- Two passes that end alike: with the same report or for the same reason, and in contexts that
correspond. -/
structure PassOutcome.Renumbered (r : Renumbering) (o o' : PassOutcome) : Prop where
  result : o'.result = o.result.mapError (RouteError.renumber r)
  ctx : o.ctx.Renumbered r o'.ctx

theorem AlikePass.outcome {x y : Except Halt PassState} (h : AlikePass r (PassState.Renumbered r) x y) :
    AlikeQuery (PassOutcome.Renumbered r) (PassOutcome.of x) (PassOutcome.of y) := by
  cases h with
  | ok h => exact .ok ⟨congrArg Except.ok h.report, h.ctx⟩
  | error h =>
    cases h with
    | fault f f' => exact .error trivial
    | failed e h => exact .ok ⟨rfl, h.ctx⟩

namespace Device.SameChip

variable {d d' : Device} {i i' : Ident}

theorem contains (h : d.SameChip d') (hi : d.SameIdent d' i i') {list : List Ident}
    (hlist : ∀ k ∈ list, k < d.record.idLimit) : list.contains i' = list.contains i := by
  rw [Bool.eq_iff_iff, List.contains_iff_mem, List.contains_iff_mem]
  constructor
  · intro hmem
    rwa [(hi.eq_iff h (hlist i' hmem)).1 rfl]
  · intro hmem
    rwa [(hi.eq_iff h (hlist i hmem)).2 rfl]

end Device.SameChip

theorem known_lt_idLimit (record : ChipRecord) {i : Ident} (h : i < Known.count) :
    i < record.idLimit := Nat.lt_of_lt_of_le h (Nat.le_add_right ..)

theorem clockBufferTypes_lt : ∀ k ∈ clockBufferTypes, k < Known.count := by decide +kernel

namespace Context

variable {s s' : PassState}

/-! ### Constants -/

theorem routeConstant_alike (hs : s.Renumbered r s') (name : String) :
    AlikePass r (PassState.Renumbered r) (routeConstant s name) (routeConstant s' name) := by
  unfold routeConstant
  rw [hs.ctx.netByName]
  cases s.ctx.netlist.netByName name with
  | none => exact .ok hs
  | some net => exact Pass.routeNet_alike ⟨hs.ctx, hs.report⟩

theorem routeConstants_alike (h : c.Renumbered r c') (log log' : Log) :
    AlikeQuery (PassOutcome.Renumbered r) (c.routeConstants log) (c'.routeConstants log') := by
  unfold routeConstants
  apply AlikePass.outcome
  apply Alike.foldlM (List.forall₂_same.2 fun name _ => rfl)
  · rintro t t' name _ ht rfl
    exact routeConstant_alike ht name
  · exact ⟨h, rfl⟩

/-! ### Clocks -/

theorem clockDriver?_alike (h : c.Renumbered r c') {n n' : Net} (hn : r.SameNet n n') :
    AlikeQuery (Option.Rel r.SameCell) (c.clockDriver? n) (c'.clockDriver? n') := by
  unfold clockDriver?
  have hdriver := hn.driver
  generalize n.driver = driver, n'.driver = driver' at hdriver
  cases hdriver with
  | none => exact .ok .none
  | @some port port' hport =>
    simp only [hport.cell]
    apply (h.cell port.cell).bind
    intro cell cell' hcell
    have htype : clockBufferTypes.contains cell'.cellType = clockBufferTypes.contains cell.cellType :=
      h.chip.contains (h.names _ _ hcell.cellType) fun k hk =>
        known_lt_idLimit _ (clockBufferTypes_lt k hk)
    have hport : port'.port = Known.ident "O" ↔ port.port = Known.ident "O" :=
      Device.SameIdent.eq_iff (h.names _ _ hport.port) h.chip (known_lt_idLimit _ (by decide +kernel))
    simp only [htype, hport]
    split
    · exact .ok (.some hcell)
    · exact .ok .none

theorem routeClock_alike (hs : s.Renumbered r s') (net : NetId) :
    AlikePass r (PassState.Renumbered r) (routeClock s net) (routeClock s' (r.net net)) := by
  unfold routeClock
  apply (AlikePass.ask (hs.ctx.net net)).bind
  intro n n' hn
  apply (AlikePass.ask (clockDriver?_alike hs.ctx hn)).bind
  intro found found' hfound
  cases hfound with
  | none => exact .ok hs
  | some hcell =>
    simp only [hcell.bel]
    split
    · refine .ok ⟨hs.ctx, ?_⟩
      simp only [PassState.leave, PassState.emit, hs.report, hn.users.length_eq]
    · exact Pass.routeNet_alike ⟨hs.ctx, hs.report⟩

theorem routeClocks_alike (h : c.Renumbered r c') (log log' : Log) :
    AlikeQuery (PassOutcome.Renumbered r) (c.routeClocks log) (c'.routeClocks log') := by
  unfold routeClocks
  apply AlikePass.outcome
  apply Alike.foldlM h.forall₂_netsByName
  · rintro t t' net _ ht rfl
    exact routeClock_alike ht net
  · exact ⟨h, rfl⟩

/-! ### All of them -/

theorem preRoute_alike (h : c.Renumbered r c') (log log' : Log) :
    AlikeQuery (fun o o' => o'.1 = o.1.mapError (RouteError.renumber r) ∧ o.2.1.Renumbered r o'.2.1)
      (c.preRoute log) (c'.preRoute log') := by
  unfold preRoute
  apply (routeConstants_alike h log log').bind
  rintro constants constants' hconstants
  rw [hconstants.result]
  cases constants.result with
  | error e => exact .ok ⟨rfl, hconstants.ctx⟩
  | ok first =>
    apply (routeClocks_alike hconstants.ctx _ _).bind
    rintro clocks clocks' hclocks
    rw [hclocks.result]
    cases clocks.result with
    | error e => exact .ok ⟨rfl, hclocks.ctx⟩
    | ok second =>
      apply (findSinkLocations_alike hclocks.ctx _ _).bind
      intro sinks sinks' hsinks
      refine .ok ⟨?_, hsinks.ctx⟩
      rw [hsinks.located]
      rfl

/-- Under other numbers for its cells and nets, and for the names that it has registered, a design is
routed alike. Each pass comes to an answer for both or for neither. It succeeds for both, with one
report, or fails for both and for the same reason; and what it leaves behind corresponds: who holds
each wire and pip, the routing of each net, and where the sinks are. -/
theorem passes_renumbered (h : c.Renumbered r c') (log log' : Log) :
    AlikeQuery (PassOutcome.Renumbered r) (c.routeConstants log) (c'.routeConstants log') ∧
    AlikeQuery (PassOutcome.Renumbered r) (c.routeClocks log) (c'.routeClocks log') ∧
    AlikeQuery (SinkState.Renumbered r) (c.findSinkLocations log) (c'.findSinkLocations log') ∧
    AlikeQuery (fun o o' => o'.1 = o.1.mapError (RouteError.renumber r) ∧ o.2.1.Renumbered r o'.2.1)
      (c.preRoute log) (c'.preRoute log') :=
  ⟨routeConstants_alike h log log', routeClocks_alike h log log', findSinkLocations_alike h log log',
    preRoute_alike h log log'⟩

/-! The two nets of `crossingRecord`, whose ways lead over one wire, added in either order. -/

/-- A driver of power and a clock buffer with a load each; loads are of a type that the chip has no
name for. -/
def powerFirst (d : Device) (load : Ident) : Context where
  device := d
  netlist := {
    cells := #[{ name := "vcc", cellType := Known.ident "PSEUDO_VCC", bel := some ⟨0, 0⟩ },
      { name := "buf", cellType := Known.ident "BUFGCTRL", bel := some ⟨0, 1⟩ },
      { name := "a", cellType := load, bel := some ⟨0, 2⟩ },
      { name := "b", cellType := load, bel := some ⟨0, 3⟩ }]
    nets := #[⟨Netlist.vccName, some ⟨0, Known.ident "O"⟩, [⟨2, Known.ident "CK"⟩], ∅⟩,
      ⟨"clk", some ⟨1, Known.ident "O"⟩, [⟨3, Known.ident "CK"⟩], ∅⟩]
    netIndex := (∅ : Std.ExtTreeMap String NetId).insert Netlist.vccName 0 |>.insert "clk" 1 }

def clockFirst (d : Device) (load : Ident) : Context where
  device := d
  netlist := {
    cells := #[{ name := "buf", cellType := Known.ident "BUFGCTRL", bel := some ⟨0, 1⟩ },
      { name := "b", cellType := load, bel := some ⟨0, 3⟩ },
      { name := "vcc", cellType := Known.ident "PSEUDO_VCC", bel := some ⟨0, 0⟩ },
      { name := "a", cellType := load, bel := some ⟨0, 2⟩ }]
    nets := #[⟨"clk", some ⟨0, Known.ident "O"⟩, [⟨1, Known.ident "CK"⟩], ∅⟩,
      ⟨Netlist.vccName, some ⟨2, Known.ident "O"⟩, [⟨3, Known.ident "CK"⟩], ∅⟩]
    netIndex := (∅ : Std.ExtTreeMap String NetId).insert "clk" 0 |>.insert Netlist.vccName 1 }

/-- Identifiers of one name stand for each other. -/
def swapOrder (d d' : Device) : Renumbering where
  net := Equiv.swap 0 1
  cell := (Equiv.swap 0 2).trans ((Equiv.swap 0 1).trans (Equiv.swap 1 3))
  ident i i' := ∃ name, d.ids.name? i = some name ∧ d'.ids.name? i' = some name

theorem known_swapOrder {d d' : Device} (h : d.SameChip d') {i : Ident} (hi : i < Known.count) :
    (swapOrder d d').ident i i := by
  have hlt := known_lt_idLimit d.record hi
  obtain ⟨name, hname⟩ := h.named.exists_name hlt
  exact ⟨name, hname, (h.names i hlt).trans hname⟩

theorem swapOrder_renumbered {d d' : Device} {load load' : Ident} (h : d.SameChip d')
    (hload : (swapOrder d d').ident load load') :
    (powerFirst d load).Renumbered (swapOrder d d') (clockFirst d' load') where
  chip := h
  names i i' hi := by
    obtain ⟨name, hname, hname'⟩ := hi
    exact hname'.trans hname.symm
  details := .inl rfl
  cells i := by
    have hcell {name : String} {type type' : Ident} {bel : Option BelId}
        (htype : (swapOrder d d').ident type type') :
        (swapOrder d d').SameCell { name, cellType := type, bel } { name, cellType := type', bel } :=
      ⟨rfl, htype, rfl, fun i i' hi => by simpa [Cell.belPin] using hi⟩
    obtain _ | _ | _ | _ | i := i
    · exact .some (hcell (known_swapOrder h (by decide +kernel)))
    · exact .some (hcell (known_swapOrder h (by decide +kernel)))
    · exact .some (hcell hload)
    · exact .some (hcell hload)
    · have hrest : (swapOrder d d').cell (i + 4) = i + 4 := by
        simp [swapOrder, Equiv.swap_apply_of_ne_of_ne]
      rw [hrest]
      exact .none
  nets i := by
    have hO : (swapOrder d d').ident (Known.ident "O") (Known.ident "O") :=
      known_swapOrder h (by decide +kernel)
    have hCK : (swapOrder d d').ident (Known.ident "CK") (Known.ident "CK") :=
      known_swapOrder h (by decide +kernel)
    obtain _ | _ | i := i
    · exact .some ⟨rfl, .some ⟨rfl, hO⟩, .cons ⟨rfl, hCK⟩ .nil, rfl⟩
    · exact .some ⟨rfl, .some ⟨rfl, hO⟩, .cons ⟨rfl, hCK⟩ .nil, rfl⟩
    · have hrest : (swapOrder d d').net (i + 2) = i + 2 := by
        simp [swapOrder, Equiv.swap_apply_of_ne_of_ne]
      rw [hrest]
      exact .none
  netByName name := by
    simp only [Netlist.netByName, powerFirst, clockFirst, getElem?_insert_ite]
    by_cases hclk : name = "clk"
    · subst hclk
      rw [if_neg (by decide +kernel), if_pos rfl, if_pos rfl]
      rfl
    · rw [if_neg hclk, if_neg hclk]
      split
      · rfl
      · simp
  distinct i j name hi hj := by
    have hne : Netlist.vccName ≠ "clk" := by decide +kernel
    obtain _ | _ | i := i
    · obtain _ | _ | j := j
      · rfl
      · exact absurd (Option.some.inj (hi.trans hj.symm)) hne
      · cases hj
    · obtain _ | _ | j := j
      · exact absurd (Option.some.inj (hj.trans hi.symm)) hne
      · rfl
      · cases hj
    · cases hi
  wires _ := rfl
  pips _ := rfl
  bels _ := rfl
  sinks := rfl

/-- The device of the second context has one name more, so that loads have another number there. -/
theorem passes_renumbered_swap : ∃ d d' load load' r o o',
    Device.ofDatabase ⟨crossingRecord, ⟨[]⟩, rfl⟩ = .ok (.ok d) ∧
    d' = ((d.intern "SPARE").2.intern "LOAD").2 ∧
    (powerFirst (d.intern "LOAD").2 load).Renumbered r (clockFirst d' load') ∧
    (powerFirst (d.intern "LOAD").2 load).routeConstants {} = .ok o ∧
    (clockFirst d' load').routeConstants {} = .ok o' ∧
    o.result = .ok ⟨1, 1, 0, 1⟩ ∧ o'.result = .ok ⟨1, 1, 0, 1⟩ ∧ o.ctx.Renumbered r o'.ctx := by
  have opens : (do
      let opened ← Device.ofDatabase ⟨crossingRecord, ⟨[]⟩, rfl⟩
      return opened.toOption.map fun d => decide (
        ((powerFirst (d.intern "LOAD").2 (d.intern "LOAD").1).routeConstants {}).toOption.bind
          (·.result.toOption) = some ⟨1, 1, 0, 1⟩)) = Except.ok (some true) := by decide +kernel
  obtain ⟨d, opened, hroutes⟩ := Device.exists_of_check opens
  obtain ⟨-, hopened⟩ := Device.opened_of_ofDatabase opened
  have hchip : (d.intern "LOAD").2.SameChip ((d.intern "SPARE").2.intern "LOAD").2 :=
    ((((Device.SameChip.refl hopened.named).intern "SPARE").intern "LOAD").symm.intern "LOAD").symm
  have hload : (swapOrder (d.intern "LOAD").2 ((d.intern "SPARE").2.intern "LOAD").2).ident
      (d.intern "LOAD").1 ((d.intern "SPARE").2.intern "LOAD").1 :=
    ⟨"LOAD", IdentTable.name?_intern d.ids "LOAD", IdentTable.name?_intern _ "LOAD"⟩
  have hdesigns := swapOrder_renumbered hchip hload
  obtain ⟨hconstants, _⟩ := passes_renumbered hdesigns {} {}
  have hroutes := of_decide_eq_true hroutes
  generalize ho : (powerFirst (d.intern "LOAD").2 (d.intern "LOAD").1).routeConstants {} = x,
    ho' : (clockFirst ((d.intern "SPARE").2.intern "LOAD").2
      ((d.intern "SPARE").2.intern "LOAD").1).routeConstants {} = y at hconstants hroutes
  cases hconstants with
  | error _ => cases hroutes
  | @ok o o' hends =>
    have hresult : o.result = .ok ⟨1, 1, 0, 1⟩ := by
      cases hreport : o.result with
      | ok report => simpa [Except.toOption, hreport] using hroutes
      | error e => simp [Except.toOption, hreport] at hroutes
    have hresult' : o'.result = .ok ⟨1, 1, 0, 1⟩ := by
      rw [hends.result, hresult]
      rfl
    exact ⟨d, _, _, _, _, o, o', opened, rfl, hdesigns, ho, ho', hresult, hresult', hends.ctx⟩

end Context
end Interconnect
