import Interconnect.Proofs.Building.Step
import Interconnect.Proofs.Device.Identifiers
/-!
# Names of a record

A builder registers every name that a step gives and writes down its number. Numbers keep their names,
so the numbers that stand in a table of the record, in their order, spell what the steps gave for
that table, in theirs.
-/
namespace Interconnect

namespace IdentTable

variable {t : IdentTable}

/-- Numbers that stand for the given names, with gaps in the same places. -/
def Spells (t : IdentTable) (numbers : List (Option Ident)) (words : List (Option String)) : Prop :=
  numbers.map (Option.map t.name?) = words.map (Option.map some)

theorem spells_nil : t.Spells [] [] := rfl

theorem spells_gap : t.Spells [none] [none] := rfl

theorem spells_one {i : Ident} {name : String} (h : t.name? i = some name) :
    t.Spells [some i] [some name] := by
  simp [Spells, h]

theorem Spells.append {is js : List (Option Ident)} {us vs : List (Option String)}
    (h : t.Spells is us) (h' : t.Spells js vs) : t.Spells (is ++ js) (us ++ vs) := by
  rw [Spells, List.map_append, List.map_append, h, h']

theorem spells_pair {i j : Ident} {name other : String} (hi : t.name? i = some name)
    (hj : t.name? j = some other) : t.Spells [some i, some j] [some name, some other] :=
  (spells_one hi).append (spells_one hj)

theorem Spells.of_name? {t' : IdentTable} {is : List (Option Ident)} {us : List (Option String)}
    (h : t.Spells is us) (hkeep : ∀ i name, t.name? i = some name → t'.name? i = some name) :
    t'.Spells is us := by
  rw [Spells, ← h]
  apply List.map_congr_left
  intro number hnumber
  cases number with
  | none => rfl
  | some i =>
    have hword := List.mem_map_of_mem hnumber (f := Option.map t.name?)
    rw [h] at hword
    obtain ⟨word, -, heq⟩ := List.mem_map.1 hword
    obtain ⟨name, -, hname⟩ := Option.map_eq_some_iff.1 heq
    rw [Option.map_some, Option.map_some, ← hname, hkeep i name hname.symm]

theorem Spells.internAll {is : List (Option Ident)} {us : List (Option String)} (h : t.Spells is us)
    (names : List String) : (t.internAll names).Spells is us :=
  h.of_name? fun _ _ => name?_internAll_of_name?

theorem Spells.exists_name {is : List (Option Ident)} {us : List (Option String)}
    (h : t.Spells is us) {i : Ident} (hi : some i ∈ is) : ∃ name, t.name? i = some name := by
  have hword := List.mem_map_of_mem hi (f := Option.map t.name?)
  rw [h] at hword
  obtain ⟨word, -, heq⟩ := List.mem_map.1 hword
  obtain ⟨name, -, hname⟩ := Option.map_eq_some_iff.1 heq
  exact ⟨name, hname.symm⟩

end IdentTable

/-! ### Names that stand in the tables -/

/-- A table of a tile type whose entries carry names. -/
inductive TileType.Shelf where
  | wires
  /-- The bel pins that a wire lists. -/
  | wirePins (wire : Nat)
  | bels
  | belPins (bel : Nat)
  | pips

namespace TileType

/-- The numbers of the names on a shelf, in order. Not every pip has one. -/
def numbers (ty : TileType) : Shelf → List (Option Ident)
  | .wires => ty.wires.toList.flatMap fun w => [some w.name, some w.intent]
  | .wirePins wire => (ty.wires[wire]?).toList.flatMap fun w => w.belPins.toList.map (some ·.port)
  | .bels => ty.bels.toList.flatMap fun b => [some b.name, some b.belType]
  | .belPins bel => (ty.bels[bel]?).toList.flatMap fun b => b.pins.toList.map (some ·.port)
  | .pips => ty.pips.toList.map (·.bel)

end TileType

/-- The names that a step puts on a shelf of a tile type. -/
def BuildStep.words (tt : Nat) : TileType.Shelf → BuildStep → List (Option String)
  | .wires, .wire t name intent => if t = tt then [some name, some intent] else []
  | .wirePins w, .belPin t _ port on _ => if t = tt ∧ on = w then [some port] else []
  | .bels, .bel t name belType _ _ => if t = tt then [some name, some belType] else []
  | .belPins b, .belPin t owner port _ _ => if t = tt ∧ owner = b then [some port] else []
  | .pips, .pip t _ _ => if t = tt then [none] else []
  | .pips, .sitePip t _ _ _ owner => if t = tt then [some owner] else []
  | _, _ => []

def BuildStep.typeName? : BuildStep → Option String
  | tileType name => some name
  | _ => none

namespace TileType

theorem numbers_setWire {ty : TileType} {i : Nat} {old : Wire} (new : Wire) (hold : ty.wires[i]? = some old)
    (hname : new.name = old.name) (hintent : new.intent = old.intent)
    (hpins : new.belPins = old.belPins) (shelf : Shelf) :
    { ty with wires := ty.wires.setIfInBounds i new }.numbers shelf = ty.numbers shelf := by
  cases shelf with
  | wires =>
    apply flatMap_setIfInBounds hold
    rw [hname, hintent]
  | wirePins w =>
    apply flatMap_getElem?_setIfInBounds hold
    rw [hpins]
  | bels => rfl
  | belPins b => rfl
  | pips => rfl

theorem numbers_setBel {ty : TileType} {i : Nat} {old new : Bel} (hold : ty.bels[i]? = some old)
    (hname : new.name = old.name) (htype : new.belType = old.belType) (hpins : new.pins = old.pins)
    (shelf : Shelf) :
    { ty with bels := ty.bels.setIfInBounds i new }.numbers shelf = ty.numbers shelf := by
  cases shelf with
  | wires => rfl
  | wirePins w => rfl
  | bels =>
    apply flatMap_setIfInBounds hold
    rw [hname, htype]
  | belPins b =>
    apply flatMap_getElem?_setIfInBounds hold
    rw [hpins]
  | pips => rfl

end TileType

theorem BuildStep.spells_pip {ids : IdentTable} {s : BuildStep} {tt : Nat} {p : Pip}
    (h : s.pip? ids = some (tt, p)) : ids.Spells [p.bel] (s.words tt .pips) := by
  cases s with
  | pip t src dst =>
    obtain ⟨rfl, rfl⟩ := Prod.mk.inj (Option.some.inj h)
    simpa [words] using IdentTable.spells_gap
  | sitePip t src dst place owner =>
    obtain ⟨i, hi, heq⟩ := Option.map_eq_some_iff.1 h
    obtain ⟨rfl, rfl⟩ := Prod.mk.inj heq
    simpa [words] using IdentTable.spells_one (IdentTable.find?_eq_some_iff.1 hi)
  | _ => cases h

theorem BuildStep.words_of_pip {ids : IdentTable} {s : BuildStep} {tt : Nat} {p : Pip}
    {shelf : TileType.Shelf} (h : s.pip? ids = some (tt, p)) (hshelf : shelf ≠ .pips) :
    s.words tt shelf = [] := by
  cases s with
  | pip t src dst => cases shelf <;> first | rfl | exact absurd rfl hshelf
  | sitePip t src dst place owner => cases shelf <;> first | rfl | exact absurd rfl hshelf
  | _ => cases h

/-- A shelf of the changed tile type grows by the words of the step. -/
theorem TypeChange.numbers {ids : IdentTable} {ty ty' : TileType} {s : BuildStep} {tt : Nat}
    (h : TypeChange ids ty s tt ty') (shelf : TileType.Shelf) :
    ∃ new, ty'.numbers shelf = ty.numbers shelf ++ new ∧ ids.Spells new (s.words tt shelf) := by
  have hkeep (heq : ty'.numbers shelf = ty.numbers shelf) (hwords : s.words tt shelf = []) :
      ∃ new, ty'.numbers shelf = ty.numbers shelf ++ new ∧ ids.Spells new (s.words tt shelf) :=
    ⟨[], by rw [heq, List.append_nil], by rw [hwords]; exact IdentTable.spells_nil⟩
  cases h with
  | @wire _ name intent n i hn hi =>
    cases shelf with
    | wires =>
      refine ⟨[some n, some i], ?_, ?_⟩
      · simp [TileType.numbers]
      · simpa [BuildStep.words] using IdentTable.spells_pair hn hi
    | wirePins w => exact hkeep (flatMap_getElem?_push rfl w) rfl
    | bels => exact hkeep rfl rfl
    | belPins b => exact hkeep rfl rfl
    | pips => exact hkeep rfl rfl
  | wireSite hw =>
    apply hkeep
    · apply TileType.numbers_setWire _ hw <;> rfl
    · cases shelf <;> rfl
  | @pip s _ p wires src dst hs hsrc hwires hdst =>
    have hfirst := TileType.numbers_setWire
      { src with downhill := src.downhill.push ty.pips.size } hsrc rfl rfl rfl shelf
    have hsecond := @TileType.numbers_setWire { ty with wires } _ _
      { dst with uphill := dst.uphill.push ty.pips.size } hdst rfl rfl rfl shelf
    rw [← hwires] at hfirst
    cases shelf with
    | pips =>
      refine ⟨[p.bel], ?_, BuildStep.spells_pip hs⟩
      simp [TileType.numbers]
    | wires => exact hkeep (hsecond.trans hfirst) (BuildStep.words_of_pip hs nofun)
    | wirePins w => exact hkeep (hsecond.trans hfirst) (BuildStep.words_of_pip hs nofun)
    | bels => exact hkeep rfl (BuildStep.words_of_pip hs nofun)
    | belPins b => exact hkeep rfl (BuildStep.words_of_pip hs nofun)
  | @bel _ z name belType site n t hn ht =>
    cases shelf with
    | wires => exact hkeep rfl rfl
    | wirePins w => exact hkeep rfl rfl
    | bels =>
      refine ⟨[some n, some t], ?_, ?_⟩
      · simp [TileType.numbers]
      · simpa [BuildStep.words] using IdentTable.spells_pair hn ht
    | belPins b => exact hkeep (flatMap_getElem?_push rfl b) rfl
    | pips => exact hkeep rfl rfl
  | @belPin _ bel wire port dir p x w hp hx hw =>
    cases shelf with
    | wires => exact hkeep (flatMap_setIfInBounds hw rfl) rfl
    | wirePins w' =>
      refine ⟨if wire = w' then [some p] else [], ?_, ?_⟩
      · exact flatMap_getElem?_setIfInBounds_append hw (by simp) w'
      · by_cases h : wire = w' <;>
          simp [BuildStep.words, h, IdentTable.spells_nil, IdentTable.spells_one hp]
    | bels => exact hkeep (flatMap_setIfInBounds hx rfl) rfl
    | belPins b =>
      refine ⟨if bel = b then [some p] else [], ?_, ?_⟩
      · exact flatMap_getElem?_setIfInBounds_append hx (by simp) b
      · by_cases h : bel = b <;>
          simp [BuildStep.words, h, IdentTable.spells_nil, IdentTable.spells_one hp]
    | pips => exact hkeep rfl rfl
  | belRouting hx =>
    apply hkeep
    · apply TileType.numbers_setBel hx <;> rfl
    · cases shelf <;> rfl
  | belTiming hx =>
    apply hkeep
    · apply TileType.numbers_setBel hx <;> rfl
    · cases shelf <;> rfl
  | timing _ => cases shelf <;> exact hkeep rfl rfl

/-- A step has words for the tile type that it changes and for no other. -/
theorem TypeChange.words_eq_nil {ids : IdentTable} {ty ty' : TileType} {s : BuildStep} {tt other : Nat}
    (h : TypeChange ids ty s tt ty') (hother : other ≠ tt) (shelf : TileType.Shelf) :
    s.words other shelf = [] := by
  cases h with
  | @pip s _ p _ _ _ hs =>
    cases s with
    | pip t src dst =>
      obtain ⟨rfl, -⟩ := Prod.mk.inj (Option.some.inj hs)
      cases shelf <;> simp [BuildStep.words, Ne.symm hother]
    | sitePip t src dst place owner =>
      obtain ⟨i, -, heq⟩ := Option.map_eq_some_iff.1 hs
      obtain ⟨rfl, -⟩ := Prod.mk.inj heq
      cases shelf <;> simp [BuildStep.words, Ne.symm hother]
    | _ => cases hs
  | _ => cases shelf <;> simp [BuildStep.words, Ne.symm hother]

def numbersAt (types : Array TileType) (tt : Nat) (shelf : TileType.Shelf) : List (Option Ident) :=
  (types[tt]?).toList.flatMap (·.numbers shelf)

theorem TypesChange.numbersAt {ids : IdentTable} {types types' : Array TileType} {s : BuildStep}
    (h : TypesChange ids types s types') (tt : Nat) (shelf : TileType.Shelf) :
    ∃ new, numbersAt types' tt shelf = numbersAt types tt shelf ++ new ∧
      ids.Spells new (s.words tt shelf) := by
  have hkeep (heq : Interconnect.numbersAt types' tt shelf = Interconnect.numbersAt types tt shelf)
      (hwords : s.words tt shelf = []) :
      ∃ new, Interconnect.numbersAt types' tt shelf = Interconnect.numbersAt types tt shelf ++ new ∧
        ids.Spells new (s.words tt shelf) :=
    ⟨[], by rw [heq, List.append_nil], by rw [hwords]; exact IdentTable.spells_nil⟩
  cases h with
  | spare hs =>
    apply hkeep rfl
    cases s with
    | ident | setTile | site | node | cellDelay => cases shelf <;> rfl
    | _ => cases hs
  | add _ =>
    apply hkeep
    · apply flatMap_getElem?_push
      cases shelf <;> rfl
    · cases shelf <;> rfl
  | @change s tt' ty ty' hty hchange =>
    by_cases htt : tt = tt'
    · subst htt
      obtain ⟨new, hnew, hspells⟩ := hchange.numbers shelf
      have hgrown := flatMap_getElem?_setIfInBounds_append hty (f := (·.numbers shelf)) hnew tt
      rw [if_pos rfl] at hgrown
      exact ⟨new, hgrown, hspells⟩
    · apply hkeep
      · rw [Interconnect.numbersAt, getElem?_set_of_getElem? hty, if_neg htt]
        rfl
      · exact hchange.words_eq_nil htt shelf

theorem TypeChange.typeName {ids : IdentTable} {ty ty' : TileType} {s : BuildStep} {tt : Nat}
    (h : TypeChange ids ty s tt ty') : ty'.typeName = ty.typeName := by
  cases h <;> rfl

theorem TypesChange.typeNames {ids : IdentTable} {types types' : Array TileType} {s : BuildStep}
    (h : TypesChange ids types s types') :
    ∃ new, types'.toList.map (some ·.typeName) = types.toList.map (some ·.typeName) ++ new ∧
      ids.Spells new (s.typeName?.toList.map some) := by
  cases h with
  | spare hs =>
    refine ⟨[], (List.append_nil _).symm, ?_⟩
    cases s with
    | ident | setTile | site | node | cellDelay => exact IdentTable.spells_nil
    | _ => cases hs
  | @add name n hn =>
    refine ⟨[some n], ?_, IdentTable.spells_one hn⟩
    simp
  | @change s tt ty ty' hty hchange =>
    refine ⟨[], ?_, ?_⟩
    · rw [List.append_nil]
      exact map_setIfInBounds hty (by rw [hchange.typeName])
    · have hnone : s.typeName? = none := by
        cases hchange with
        | @pip s _ _ _ _ _ hs => cases s <;> first | rfl | cases hs
        | _ => rfl
      rw [hnone]
      exact IdentTable.spells_nil

theorem NodesChange.intents {ids : IdentTable} {nodes nodes' : Array Node}
    {nodeOf nodeOf' : Std.ExtTreeMap TileWire Nat} {s : BuildStep}
    (h : NodesChange ids nodes nodeOf s nodes' nodeOf') :
    ∃ new, nodes'.toList.map (some ·.intent) = nodes.toList.map (some ·.intent) ++ new ∧
      ids.Spells new (s.node?.toList.map fun (intent, _) => some intent) := by
  cases h with
  | spare hs =>
    refine ⟨[], (List.append_nil _).symm, ?_⟩
    rw [hs]
    exact IdentTable.spells_nil
  | @join intent members i hi =>
    refine ⟨[some i], ?_, IdentTable.spells_one hi⟩
    simp

/-! ### Names of a whole build -/

namespace ChipBuilder

variable {b b' : ChipBuilder} {before steps : List BuildStep} {outs : List (Option Nat)}

/-- A table that grows by the words of each step spells the words of all of them. -/
theorem run_spells (numbers : ChipBuilder → List (Option Ident)) (first : List (Option String))
    {words : BuildStep → List (Option String)}
    (hstep : ∀ b s b', StepEffect b s b' →
      ∃ new, numbers b' = numbers b ++ new ∧ b'.ids.Spells new (words s))
    (hfirst : b.ids.Spells (numbers b) first) (h : b.run steps = .ok (outs, b')) :
    b'.ids.Spells (numbers b') (first ++ steps.flatMap words) := by
  apply run_keeps (fun before b => b.ids.Spells (numbers b) (first ++ before.flatMap words)) _ _ h
  · intro before b s b' hb heffect
    obtain ⟨new, hnew, hspells⟩ := hstep b s b' heffect
    have hold : b'.ids.Spells (numbers b) (first ++ before.flatMap words) :=
      heffect.ids ▸ hb.internAll s.names
    rw [hnew, List.flatMap_append, ← List.append_assoc]
    simpa using hold.append hspells
  · simpa using hfirst

theorem run_names (h : b.run steps = .ok (outs, b')) :
    b.ids.names.toList <+: b'.ids.names.toList := by
  apply run_keeps (fun _ now => b.ids.names.toList <+: now.ids.names.toList) _ (List.prefix_refl _) h
  intro before now s next hnow heffect
  rw [heffect.ids]
  exact hnow.trans (IdentTable.names_prefix_internAll ..)

end ChipBuilder

end Interconnect
