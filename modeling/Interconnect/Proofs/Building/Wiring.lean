import Interconnect.Proofs.Building.Step
/-!
# Wires, pips and pins of a tile type

A tile type says twice which pips join its wires and which bel pins are on them: once from the pip or
bel and once from the wire. However a tile type is built, the two agree.
-/
namespace Interconnect

namespace TileType

def pipsWhere (ty : TileType) (test : Pip → Bool) : List Nat :=
  (List.range ty.pips.size).filter fun i => (ty.pips[i]?).any test

theorem pipsWhere_congr {ty ty' : TileType} (h : ty'.pips = ty.pips) (test : Pip → Bool) :
    ty'.pipsWhere test = ty.pipsWhere test := by
  rw [pipsWhere, pipsWhere, h]

theorem pipsWhere_push {ty ty' : TileType} {p : Pip} (h : ty'.pips = ty.pips.push p)
    (test : Pip → Bool) :
    ty'.pipsWhere test = ty.pipsWhere test ++ if test p then [ty.pips.size] else [] := by
  have hold : (List.range ty.pips.size).filter (fun i => (ty'.pips[i]?).any test) =
      ty.pipsWhere test := by
    apply List.filter_congr
    intro i hi
    rw [h, Array.getElem?_push, if_neg (Nat.ne_of_lt (List.mem_range.1 hi))]
  have hnew : ty'.pips[ty.pips.size]? = some p := by simp [h]
  have hsize : ty'.pips.size = ty.pips.size + 1 := by simp [h]
  rw [pipsWhere, hsize, List.range_succ, List.filter_append, hold]
  cases htest : test p <;> simp [hnew, htest]

theorem mem_pipsWhere_iff {ty : TileType} {test : Pip → Bool} {i : Nat} :
    i ∈ ty.pipsWhere test ↔ ∃ p, ty.pips[i]? = some p ∧ test p = true := by
  simp only [pipsWhere, List.mem_filter, List.mem_range, Option.any_eq_true]
  constructor
  · intro h
    exact h.2
  · intro h
    obtain ⟨p, hp, htest⟩ := h
    exact ⟨(Array.getElem?_eq_some_iff.1 hp).1, p, hp, htest⟩

theorem pairwise_pipsWhere (ty : TileType) (test : Pip → Bool) :
    (ty.pipsWhere test).Pairwise (· < ·) :=
  List.pairwise_lt_range.filter _

/-- Each wire lists, in ascending order, the pips that have it as the given end. -/
structure Lists (ty : TileType) (list : Wire → Array Nat) (endOf : Pip → Nat) : Prop where
  bound : ∀ p ∈ ty.pips, endOf p < ty.wires.size
  eq : ∀ (w : Nat) wire, ty.wires[w]? = some wire →
    (list wire).toList = ty.pipsWhere (endOf · = w)

/-- The pins of each bel on each wire are those that the wire lists for the bel, in the same order. -/
structure PinsAgree (ty : TileType) : Prop where
  wire : ∀ bel ∈ ty.bels, ∀ p ∈ bel.pins, p.wire < ty.wires.size
  bel : ∀ wire ∈ ty.wires, ∀ p ∈ wire.belPins, p.bel < ty.bels.size
  mirror : ∀ (b : Nat) bel (w : Nat) wire, ty.bels[b]? = some bel → ty.wires[w]? = some wire →
    (bel.pins.toList.filter (·.wire = w)).map (·.port) =
      (wire.belPins.toList.filter (·.bel = b)).map (·.port)

/-- Pips and bel pins are told alike from both of their sides. -/
structure Wired (ty : TileType) : Prop where
  uphill : ty.Lists (·.uphill) (·.dst)
  downhill : ty.Lists (·.downhill) (·.src)
  pins : ty.PinsAgree

theorem wired_new (n : Ident) : Wired { typeName := n } := by
  constructor <;> constructor <;> simp

variable {ty ty' : TileType} {list : Wire → Array Nat} {endOf : Pip → Nat}

namespace Lists

theorem congr (h : ty.Lists list endOf) (hpips : ty'.pips = ty.pips)
    (hsize : ty'.wires.size = ty.wires.size)
    (hwires : ∀ (w : Nat) wire', ty'.wires[w]? = some wire' →
      ∃ wire, ty.wires[w]? = some wire ∧ list wire' = list wire) : ty'.Lists list endOf := by
  constructor
  · rw [hpips, hsize]
    exact h.bound
  · intro w wire' hwire'
    obtain ⟨wire, hwire, hlist⟩ := hwires w wire' hwire'
    rw [hlist, pipsWhere_congr hpips]
    exact h.eq w wire hwire

theorem pushWire {new : Wire} (h : ty.Lists list endOf) (hpips : ty'.pips = ty.pips)
    (hwires : ty'.wires = ty.wires.push new) (hnew : list new = #[]) : ty'.Lists list endOf := by
  constructor
  · intro p hp
    have hlt := h.bound p (hpips ▸ hp)
    rw [hwires, Array.size_push]
    omega
  · intro w wire hwire
    rw [pipsWhere_congr hpips]
    rw [hwires, Array.getElem?_push] at hwire
    split at hwire
    · next hw =>
      obtain rfl := Option.some.inj hwire
      symm
      rw [hnew, hw]
      apply List.eq_nil_iff_forall_not_mem.2
      intro i hi
      obtain ⟨p, hp, heq⟩ := mem_pipsWhere_iff.1 hi
      have hlt := h.bound p (Array.mem_of_getElem? hp)
      exact Nat.ne_of_lt hlt (of_decide_eq_true heq)
    · exact h.eq w wire hwire

theorem pushPip {p : Pip} (h : ty.Lists list endOf) (hpips : ty'.pips = ty.pips.push p)
    (hsize : ty'.wires.size = ty.wires.size) (hp : endOf p < ty.wires.size)
    (hwires : ∀ (w : Nat) wire', ty'.wires[w]? = some wire' → ∃ wire, ty.wires[w]? = some wire ∧
      list wire' = if endOf p = w then (list wire).push ty.pips.size else list wire) :
    ty'.Lists list endOf := by
  constructor
  · intro q hq
    rw [hpips, Array.mem_push] at hq
    rw [hsize]
    rcases hq with hq | rfl
    · exact h.bound q hq
    · exact hp
  · intro w wire' hwire'
    obtain ⟨wire, hwire, hlist⟩ := hwires w wire' hwire'
    rw [hlist, pipsWhere_push hpips, ← h.eq w wire hwire]
    by_cases hw : endOf p = w <;> simp [hw]

end Lists

theorem exists_of_pip {p : Pip} {n i : Nat} {wires wires₁ : Array Wire} {src dst wire' : Wire}
    (hsrc : wires[p.src]? = some src)
    (hwires₁ : wires₁ = wires.setIfInBounds p.src { src with downhill := src.downhill.push n })
    (hdst : wires₁[p.dst]? = some dst)
    (h : (wires₁.setIfInBounds p.dst { dst with uphill := dst.uphill.push n })[i]? = some wire') :
    ∃ wire, wires[i]? = some wire ∧ wire'.belPins = wire.belPins ∧
      wire'.uphill = (if p.dst = i then wire.uphill.push n else wire.uphill) ∧
      wire'.downhill = if p.src = i then wire.downhill.push n else wire.downhill := by
  obtain ⟨middle, hmiddle, hdriven⟩ := exists_of_getElem?_set hdst h
  rw [hwires₁] at hmiddle
  obtain ⟨wire, hwire, hdriving⟩ := exists_of_getElem?_set hsrc hmiddle
  refine ⟨wire, hwire, ?_⟩
  rcases hdriven with ⟨rfl, rfl, rfl⟩ | ⟨hi, rfl⟩
  · rcases hdriving with ⟨hs, rfl, rfl⟩ | ⟨hs, rfl⟩
    · simp [hs]
    · simp [Ne.symm hs]
  · rcases hdriving with ⟨rfl, rfl, rfl⟩ | ⟨hs, rfl⟩
    · simp [Ne.symm hi]
    · simp [Ne.symm hi, Ne.symm hs]

namespace PinsAgree

theorem congr (h : ty.PinsAgree) (hwiresSize : ty'.wires.size = ty.wires.size)
    (hbelsSize : ty'.bels.size = ty.bels.size)
    (hwires : ∀ (w : Nat) wire', ty'.wires[w]? = some wire' →
      ∃ wire, ty.wires[w]? = some wire ∧ wire'.belPins = wire.belPins)
    (hbels : ∀ (b : Nat) bel', ty'.bels[b]? = some bel' →
      ∃ bel, ty.bels[b]? = some bel ∧ bel'.pins = bel.pins) : ty'.PinsAgree := by
  constructor
  · intro bel' hbel' p hp
    obtain ⟨b, hb⟩ := Array.mem_iff_getElem?.1 hbel'
    obtain ⟨bel, hbel, hpins⟩ := hbels b bel' hb
    rw [hwiresSize]
    exact h.wire bel (Array.mem_of_getElem? hbel) p (hpins ▸ hp)
  · intro wire' hwire' p hp
    obtain ⟨w, hw⟩ := Array.mem_iff_getElem?.1 hwire'
    obtain ⟨wire, hwire, hpins⟩ := hwires w wire' hw
    rw [hbelsSize]
    exact h.bel wire (Array.mem_of_getElem? hwire) p (hpins ▸ hp)
  · intro b bel' w wire' hbel' hwire'
    obtain ⟨bel, hbel, hpins⟩ := hbels b bel' hbel'
    obtain ⟨wire, hwire, hbelPins⟩ := hwires w wire' hwire'
    rw [hpins, hbelPins]
    exact h.mirror b bel w wire hbel hwire

theorem pushWire {new : Wire} (h : ty.PinsAgree) (hbels : ty'.bels = ty.bels)
    (hwires : ty'.wires = ty.wires.push new) (hnew : new.belPins = #[]) : ty'.PinsAgree := by
  constructor
  · intro bel hbel p hp
    have hlt := h.wire bel (hbels ▸ hbel) p hp
    rw [hwires, Array.size_push]
    omega
  · intro wire hwire p hp
    rw [hwires, Array.mem_push] at hwire
    rw [hbels]
    rcases hwire with hwire | rfl
    · exact h.bel wire hwire p hp
    · simp [hnew] at hp
  · intro b bel w wire hbel hwire
    rw [hbels] at hbel
    rw [hwires, Array.getElem?_push] at hwire
    split at hwire
    · next hw =>
      obtain rfl := Option.some.inj hwire
      have hnone : bel.pins.toList.filter (·.wire = w) = [] := by
        apply List.filter_eq_nil_iff.2
        intro p hp
        have hlt := h.wire bel (Array.mem_of_getElem? hbel) p (Array.mem_toList_iff.1 hp)
        simp only [decide_eq_true_eq]
        omega
      simp [hnone, hnew]
    · exact h.mirror b bel w wire hbel hwire

theorem pushBel {new : Bel} (h : ty.PinsAgree) (hwires : ty'.wires = ty.wires)
    (hbels : ty'.bels = ty.bels.push new) (hnew : new.pins = #[]) : ty'.PinsAgree := by
  constructor
  · intro bel hbel p hp
    rw [hbels, Array.mem_push] at hbel
    rw [hwires]
    rcases hbel with hbel | rfl
    · exact h.wire bel hbel p hp
    · simp [hnew] at hp
  · intro wire hwire p hp
    have hlt := h.bel wire (hwires ▸ hwire) p hp
    rw [hbels, Array.size_push]
    omega
  · intro b bel w wire hbel hwire
    rw [hwires] at hwire
    rw [hbels, Array.getElem?_push] at hbel
    split at hbel
    · next hb =>
      obtain rfl := Option.some.inj hbel
      have hnone : wire.belPins.toList.filter (·.bel = b) = [] := by
        apply List.filter_eq_nil_iff.2
        intro p hp
        have hlt := h.bel wire (Array.mem_of_getElem? hwire) p (Array.mem_toList_iff.1 hp)
        simp only [decide_eq_true_eq]
        omega
      simp [hnone, hnew]
    · exact h.mirror b bel w wire hbel hwire

theorem addPin {b w : Nat} {bel : Bel} {wire : Wire} {port : Ident} {dir : PinDir}
    (h : ty.PinsAgree) (hbel : ty.bels[b]? = some bel) (hwire : ty.wires[w]? = some wire)
    (hbels : ty'.bels = ty.bels.setIfInBounds b { bel with pins := bel.pins.push ⟨port, w, dir⟩ })
    (hwires : ty'.wires =
      ty.wires.setIfInBounds w { wire with belPins := wire.belPins.push ⟨b, port⟩ }) :
    ty'.PinsAgree := by
  have hb : b < ty.bels.size := (Array.getElem?_eq_some_iff.1 hbel).1
  have hw : w < ty.wires.size := (Array.getElem?_eq_some_iff.1 hwire).1
  constructor
  · intro bel' hbel' p hp
    rw [hwires, Array.size_setIfInBounds]
    obtain ⟨i, hi⟩ := Array.mem_iff_getElem?.1 hbel'
    rw [hbels] at hi
    obtain ⟨before, hbefore, hcases⟩ := exists_of_getElem?_set hbel hi
    have hold := h.wire before (Array.mem_of_getElem? hbefore)
    rcases hcases with ⟨-, rfl, rfl⟩ | ⟨-, rfl⟩
    · rcases Array.mem_push.1 hp with hp | rfl
      · exact hold p hp
      · exact hw
    · exact hold p hp
  · intro wire' hwire' p hp
    rw [hbels, Array.size_setIfInBounds]
    obtain ⟨i, hi⟩ := Array.mem_iff_getElem?.1 hwire'
    rw [hwires] at hi
    obtain ⟨before, hbefore, hcases⟩ := exists_of_getElem?_set hwire hi
    have hold := h.bel before (Array.mem_of_getElem? hbefore)
    rcases hcases with ⟨-, rfl, rfl⟩ | ⟨-, rfl⟩
    · rcases Array.mem_push.1 hp with hp | rfl
      · exact hold p hp
      · exact hb
    · exact hold p hp
  · intro b' bel' w' wire' hbel' hwire'
    rw [hbels] at hbel'
    rw [hwires] at hwire'
    obtain ⟨bel₀, hbel₀, hbelCases⟩ := exists_of_getElem?_set hbel hbel'
    obtain ⟨wire₀, hwire₀, hwireCases⟩ := exists_of_getElem?_set hwire hwire'
    have hold := h.mirror b' bel₀ w' wire₀ hbel₀ hwire₀
    rcases hbelCases with ⟨rfl, rfl, rfl⟩ | ⟨hb', rfl⟩
    · rcases hwireCases with ⟨rfl, rfl, rfl⟩ | ⟨hw', rfl⟩
      · simp [hold]
      · simpa [Ne.symm hw'] using hold
    · rcases hwireCases with ⟨rfl, rfl, rfl⟩ | ⟨hw', rfl⟩
      · simpa [Ne.symm hb'] using hold
      · exact hold

end PinsAgree

theorem Wired.change {ids : IdentTable} {s : BuildStep} {tt : Nat} (h : ty.Wired)
    (hchange : TypeChange ids ty s tt ty') : ty'.Wired := by
  have hbels (b : Nat) bel (hbel : ty.bels[b]? = some bel) :
      ∃ bel', ty.bels[b]? = some bel' ∧ bel.pins = bel'.pins := ⟨bel, hbel, rfl⟩
  have hwires (b : Nat) wire (hwire : ty.wires[b]? = some wire) :
      ∃ wire', ty.wires[b]? = some wire' ∧ wire.belPins = wire'.belPins := ⟨wire, hwire, rfl⟩
  cases hchange with
  | wire _ _ =>
    exact ⟨h.uphill.pushWire rfl rfl rfl, h.downhill.pushWire rfl rfl rfl,
      h.pins.pushWire rfl rfl rfl⟩
  | wireSite hw =>
    refine ⟨h.uphill.congr rfl Array.size_setIfInBounds ?_,
      h.downhill.congr rfl Array.size_setIfInBounds ?_,
      h.pins.congr Array.size_setIfInBounds rfl ?_ hbels⟩
    · exact fun _ _ hset => exists_of_getElem?_set_same (·.uphill) hw hset rfl
    · exact fun _ _ hset => exists_of_getElem?_set_same (·.downhill) hw hset rfl
    · exact fun _ _ hset => exists_of_getElem?_set_same (·.belPins) hw hset rfl
  | @pip s tt p wires src dst _ hsrc hwires₁ hdst =>
    have hsize : (wires.setIfInBounds p.dst { dst with uphill := dst.uphill.push ty.pips.size }).size =
        ty.wires.size := by simp [hwires₁]
    have hends : p.src < ty.wires.size ∧ p.dst < ty.wires.size := by
      have hlt := (Array.getElem?_eq_some_iff.1 hdst).1
      rw [hwires₁, Array.size_setIfInBounds] at hlt
      exact ⟨(Array.getElem?_eq_some_iff.1 hsrc).1, hlt⟩
    refine ⟨h.uphill.pushPip rfl hsize hends.2 ?_, h.downhill.pushPip rfl hsize hends.1 ?_,
      h.pins.congr hsize rfl ?_ hbels⟩
    · intro w wire' hwire'
      obtain ⟨wire, hwire, -, hup, -⟩ := exists_of_pip hsrc hwires₁ hdst hwire'
      exact ⟨wire, hwire, hup⟩
    · intro w wire' hwire'
      obtain ⟨wire, hwire, -, -, hdown⟩ := exists_of_pip hsrc hwires₁ hdst hwire'
      exact ⟨wire, hwire, hdown⟩
    · intro w wire' hwire'
      obtain ⟨wire, hwire, hpins, -⟩ := exists_of_pip hsrc hwires₁ hdst hwire'
      exact ⟨wire, hwire, hpins⟩
  | bel _ _ =>
    exact ⟨⟨h.uphill.bound, h.uphill.eq⟩, ⟨h.downhill.bound, h.downhill.eq⟩,
      h.pins.pushBel rfl rfl rfl⟩
  | belPin _ hbel hw =>
    refine ⟨h.uphill.congr rfl Array.size_setIfInBounds ?_,
      h.downhill.congr rfl Array.size_setIfInBounds ?_, h.pins.addPin hbel hw rfl rfl⟩
    · exact fun _ _ hset => exists_of_getElem?_set_same (·.uphill) hw hset rfl
    · exact fun _ _ hset => exists_of_getElem?_set_same (·.downhill) hw hset rfl
  | belRouting hbel =>
    refine ⟨⟨h.uphill.bound, h.uphill.eq⟩, ⟨h.downhill.bound, h.downhill.eq⟩,
      h.pins.congr rfl Array.size_setIfInBounds hwires ?_⟩
    exact fun _ _ hset => exists_of_getElem?_set_same (·.pins) hbel hset rfl
  | belTiming hbel =>
    refine ⟨⟨h.uphill.bound, h.uphill.eq⟩, ⟨h.downhill.bound, h.downhill.eq⟩,
      h.pins.congr rfl Array.size_setIfInBounds hwires ?_⟩
    exact fun _ _ hset => exists_of_getElem?_set_same (·.pins) hbel hset rfl
  | timing _ =>
    exact ⟨⟨h.uphill.bound, h.uphill.eq⟩, ⟨h.downhill.bound, h.downhill.eq⟩,
      h.pins.congr rfl rfl hwires hbels⟩

end TileType

theorem TypesChange.wired {ids : IdentTable} {types types' : Array TileType} {s : BuildStep}
    (h : ∀ ty ∈ types, ty.Wired) (hchange : TypesChange ids types s types') :
    ∀ ty ∈ types', ty.Wired := by
  cases hchange with
  | spare _ => exact h
  | @add name n _ =>
    intro ty hty
    rcases Array.mem_push.1 hty with hty | rfl
    · exact h ty hty
    · exact TileType.wired_new n
  | change hold hty' =>
    intro ty hty
    obtain ⟨i, hi⟩ := Array.mem_iff_getElem?.1 hty
    obtain ⟨before, hbefore, ⟨-, rfl, rfl⟩ | ⟨-, rfl⟩⟩ := exists_of_getElem?_set hold hi
    · exact (h before (Array.mem_of_getElem? hbefore)).change hty'
    · exact h ty (Array.mem_of_getElem? hbefore)

end Interconnect
