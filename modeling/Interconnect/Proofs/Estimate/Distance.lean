import Interconnect.Proofs.Estimate.Separation
/-!
# Estimates grow with distance

The price of an axis grows with each step, before its knee and beyond. So the price of a route grows with the
distance of its ends on either axis, and scaling keeps the order. What a source's intent takes off where both
ends coincide is taken off no price but the least.
-/
namespace Interconnect

section
variable {α β : Type} {big : Prop} {P : α → Prop} {Q : β → Prop} {q : Query α} {r : Query β}

theorem AnswersUnless.both {R : α × β → Prop} (hq : AnswersUnless big q P) (hr : AnswersUnless big r Q)
    (hR : ∀ a b, q = .ok a → r = .ok b → P a → Q b → R (a, b)) :
    AnswersUnless big (do return (← q, ← r)) R := by
  rcases hq with ⟨a, rfl, ha⟩ | ⟨hbig, rfl⟩
  · rcases hr with ⟨b, rfl, hb⟩ | ⟨hbig, rfl⟩
    · exact .inl ⟨(a, b), rfl, hR a b rfl rfl ha hb⟩
    · exact .inr ⟨hbig, rfl⟩
  · exact .inr ⟨hbig, rfl⟩

end

/-! ### Prices -/

namespace AxisCost

variable {a : AxisCost} {d d' : Int}

theorem price_lt (hnear : 0 < a.near) (hfar : 0 < a.far) (h : d.natAbs < d'.natAbs) :
    a.price d < a.price d' := by
  by_cases hknee : (d'.natAbs : Int) ≤ a.knee
  · have hmore : a.near * min (d.natAbs : Int) a.knee < a.near * min (d'.natAbs : Int) a.knee :=
      Int.mul_lt_mul_of_pos_left (by omega) hnear
    have hbeyond : max ((d.natAbs : Int) - a.knee) 0 = max ((d'.natAbs : Int) - a.knee) 0 := by omega
    dsimp only [price]
    rw [hbeyond]
    exact Int.add_lt_add_right hmore _
  · have hbefore : a.near * min (d.natAbs : Int) a.knee ≤ a.near * min (d'.natAbs : Int) a.knee :=
      Int.mul_le_mul_of_nonneg_left (by omega) (Int.le_of_lt hnear)
    have hmore : a.far * max ((d.natAbs : Int) - a.knee) 0 < a.far * max ((d'.natAbs : Int) - a.knee) 0 :=
      Int.mul_lt_mul_of_pos_left (by omega) hfar
    exact Int.add_lt_add_of_le_of_lt hbefore hmore

theorem price_le_price (hnear : 0 < a.near) (hfar : 0 < a.far) (h : d.natAbs ≤ d'.natAbs) :
    a.price d ≤ a.price d' := by
  rcases Nat.lt_or_eq_of_le h with hlt | heq
  · exact Int.le_of_lt (price_lt hnear hfar hlt)
  · exact Int.le_of_eq (by rw [price, price, heq])

end AxisCost

/-- On each axis the first of two points is at most as far from a point as the second. -/
structure NoFarther (p q₁ q₂ : Int × Int) : Prop where
  column : (q₁.1 - p.1).natAbs ≤ (q₂.1 - p.1).natAbs
  row : (q₁.2 - p.2).natAbs ≤ (q₂.2 - p.2).natAbs

theorem NoFarther.coincides {p q₁ q₂ : Int × Int} (h : NoFarther p q₁ q₂) (heq : p = q₂) : p = q₁ := by
  subst heq
  have hcolumn := h.column
  have hrow := h.row
  apply Prod.ext <;> omega

/-- On some axis the first of two points is nearer to a point than the second. -/
def NearerOnAxis (p q₁ q₂ : Int × Int) : Prop :=
  (q₁.1 - p.1).natAbs < (q₂.1 - p.1).natAbs ∨ (q₁.2 - p.2).natAbs < (q₂.2 - p.2).natAbs

namespace Context

open Estimate

variable {c : Context} {src dst : WireId} {p q q₁ q₂ : Int × Int}

def wayPrice (p q : Int × Int) : Delay :=
  AxisCost.routeX.price (q.1 - p.1) + AxisCost.routeY.price (q.2 - p.2) + routeBase

theorem wayPrice_grows (h : NoFarther p q₁ q₂) :
    wayPrice p q₁ ≤ wayPrice p q₂ ∧ (NearerOnAxis p q₁ q₂ → wayPrice p q₁ < wayPrice p q₂) := by
  have hx := AxisCost.price_le_price (a := .routeX) (by decide) (by decide) h.column
  have hy := AxisCost.price_le_price (a := .routeY) (by decide) (by decide) h.row
  dsimp only [wayPrice, Delay] at hx hy ⊢
  refine ⟨by omega, fun hnearer => ?_⟩
  rcases hnearer with hcolumn | hrow
  · have hless := AxisCost.price_lt (a := .routeX) (by decide) (by decide) hcolumn
    dsimp only [Delay] at hless
    omega
  · have hless := AxisCost.price_lt (a := .routeY) (by decide) (by decide) hrow
    dsimp only [Delay] at hless
    omega

theorem eq_of_routePrice {price : Delay} (h : c.routePrice p q = .ok price) :
    price = if c.device.isXc7 then (wayPrice p q * 3).tdiv 2 else wayPrice p q := by
  rw [routePrice, ← wayPrice] at h
  split at h
  · next hscaled =>
    obtain ⟨k, hk, h⟩ := bind_eq_ok_iff.1 h
    obtain ⟨-, rfl⟩ := word_eq_ok_iff.1 hk
    rw [if_pos hscaled]
    exact (Except.ok.inj h).symm
  · next hplain =>
    rw [if_neg hplain]
    exact (word_eq_ok_iff.1 h).2.symm

/-- Half as much again keeps the order of prices, since none is negative and they are whole. -/
theorem routePrice_grows {price₁ price₂ : Delay} (h : NoFarther p q₁ q₂)
    (h₁ : c.routePrice p q₁ = .ok price₁) (h₂ : c.routePrice p q₂ = .ok price₂) :
    price₁ ≤ price₂ ∧ (NearerOnAxis p q₁ q₂ → price₁ < price₂) := by
  rw [eq_of_routePrice h₁, eq_of_routePrice h₂]
  obtain ⟨hle, hlt⟩ := wayPrice_grows h
  split
  · have hx := AxisCost.price_nonneg (a := .routeX) (by decide) (by decide) (by decide) (q₁.1 - p.1)
    have hy := AxisCost.price_nonneg (a := .routeY) (by decide) (by decide) (by decide) (q₁.2 - p.2)
    have hnonneg : 0 ≤ wayPrice p q₁ := Int.add_nonneg (Int.add_nonneg hx hy) (by decide)
    dsimp only [Delay] at hle hlt hnonneg ⊢
    rw [Int.tdiv_eq_ediv_of_nonneg (by omega), Int.tdiv_eq_ediv_of_nonneg (by omega)]
    refine ⟨by omega, fun hnearer => ?_⟩
    have hless := hlt hnearer
    omega
  · exact ⟨hle, hlt⟩

theorem intentDiscount_le {here here' : Bool} (h : here = true → here' = true) (intent : Ident) :
    intentDiscount intent here ≤ intentDiscount intent here' := by
  cases here with
  | true => exact Int.le_of_eq (by rw [h rfl])
  | false =>
    unfold intentDiscount
    apply Int.add_le_add_right
    simp only [Bool.and_false, Bool.false_eq_true, if_false]
    split
    · decide
    · split <;> decide

theorem estimateDelay_of_tile {t i : Nat} (hne : dst ≠ .tile t i) (hsink : c.sinkLocation dst = none)
    (hsrc : c.wireAnchor (.tile t i) = .ok p) (hdst : c.wireAnchor dst = .ok q) :
    c.estimateDelay (.tile t i) dst = c.delayBetween (.tile t i) dst p q := by
  have hmeet : c.meetsAtSink (.tile t i) dst = .ok false := by rw [meetsAtSink, hsink]
  rw [estimateDelay_of_apart hne.symm hmeet hdst, sourceAnchor, hsrc]
  rfl

theorem eq_of_delayBetween {delay : Delay} (hsink : c.sinkLocation dst = none)
    (h : c.delayBetween src dst p q = .ok delay) : ∃ intent price, c.device.wireIntent src = .ok intent ∧
      c.routePrice p q = .ok price ∧ delay = price - intentDiscount intent (p = q) := by
  obtain ⟨intent, hintent, h⟩ := bind_eq_ok_iff.1 h
  obtain ⟨price, hprice, h⟩ := bind_eq_ok_iff.1 h
  obtain ⟨total, htotal, h⟩ := bind_eq_ok_iff.1 h
  obtain ⟨-, rfl⟩ := word_eq_ok_iff.1 htotal
  obtain rfl := Except.ok.inj h
  refine ⟨intent, price, hintent, hprice, ?_⟩
  simp [hsink]

theorem delayBetween_grows {dst₁ dst₂ : WireId} {delay₁ delay₂ : Delay} (h : NoFarther p q₁ q₂)
    (hsink₁ : c.sinkLocation dst₁ = none) (hsink₂ : c.sinkLocation dst₂ = none)
    (h₁ : c.delayBetween src dst₁ p q₁ = .ok delay₁) (h₂ : c.delayBetween src dst₂ p q₂ = .ok delay₂) :
    delay₁ ≤ delay₂ ∧ (NearerOnAxis p q₁ q₂ → delay₁ < delay₂) := by
  obtain ⟨intent, price₁, hintent, hprice₁, rfl⟩ := eq_of_delayBetween hsink₁ h₁
  obtain ⟨intent', price₂, hintent', hprice₂, rfl⟩ := eq_of_delayBetween hsink₂ h₂
  obtain rfl := Except.ok.inj (hintent.symm.trans hintent')
  obtain ⟨hle, hlt⟩ := routePrice_grows h hprice₁ hprice₂
  have hdiscount : intentDiscount intent (p = q₂) ≤ intentDiscount intent (p = q₁) :=
    intentDiscount_le (by simpa using h.coincides) intent
  dsimp only [Delay] at hle hlt hdiscount ⊢
  refine ⟨by omega, fun hnearer => ?_⟩
  have hless := hlt hnearer
  omega

end Context

open Context

variable {c : Context} {p q₁ q₂ : Int × Int}

/-- From a wire of a tile, an estimate to a wire that is at most as far away on each axis is at most as great,
and less if the wire is nearer on some axis. -/
theorem estimates_grow {t i : Nat} {dst₁ dst₂ : WireId} (hsrc : c.device.HasWire (.tile t i))
    (hdst₁ : c.device.HasWire dst₁) (hdst₂ : c.device.HasWire dst₂)
    (hne₁ : dst₁ ≠ .tile t i) (hne₂ : dst₂ ≠ .tile t i)
    (hsink₁ : c.sinkLocation dst₁ = none) (hsink₂ : c.sinkLocation dst₂ = none)
    (hp : c.wireAnchor (.tile t i) = .ok p) (hq₁ : c.wireAnchor dst₁ = .ok q₁)
    (hq₂ : c.wireAnchor dst₂ = .ok q₂) (h : NoFarther p q₁ q₂) :
    AnswersUnless (¬ c.Small)
      (do return (← c.estimateDelay (.tile t i) dst₁, ← c.estimateDelay (.tile t i) dst₂))
      fun delays => delays.1 ≤ delays.2 ∧ (NearerOnAxis p q₁ q₂ → delays.1 < delays.2) := by
  have axes := ((answers_wireAnchor hsrc).of_eq_ok hp).axes
  have known₁ := (answers_wireAnchor hdst₁).of_eq_ok hq₁
  have known₂ := (answers_wireAnchor hdst₂).of_eq_ok hq₂
  rw [estimateDelay_of_tile hne₁ hsink₁ hp hq₁, estimateDelay_of_tile hne₂ hsink₂ hp hq₂]
  refine (answersUnless_delayBetween hsrc axes known₁).both (answersUnless_delayBetween hsrc axes known₂)
    fun delay₁ delay₂ h₁ h₂ _ _ => ?_
  exact delayBetween_grows h hsink₁ hsink₂ h₁ h₂

theorem cornerRecord_hasWire {d : Device} (hrecord : d.record = cornerRecord) {t : Nat} (ht : t < 4) :
    d.HasWire (.tile t 1) := by
  refine ⟨_, ?_, (by decide : 1 < cornerRecord.tileTypes[0].wires.size)⟩
  rw [Device.tileType, Device.tile, hrecord]
  obtain rfl | rfl | rfl | rfl : t = 0 ∨ t = 1 ∨ t = 2 ∨ t = 3 := by omega
  all_goals rfl

theorem cornerRecord_anchor {d : Device} (hrecord : d.record = cornerRecord) {t : Nat} {xy : Int × Int}
    (hwire : d.HasWire (.tile t 1)) (hxy : d.tileXY t = .ok xy) :
    Context.wireAnchor { device := d } (.tile t 1) = .ok xy := by
  obtain ⟨site, found, -, hfound, hanchor⟩ :=
    wireAnchor_tile (c := { device := d }) hwire (by simp [sinkLocation])
  have hsites : ∀ tile ∈ cornerRecord.tiles, tile.sites = #[] := by simp [cornerRecord]
  obtain ⟨tile, htile, hfound⟩ := bind_eq_ok_iff.1 hfound
  rw [Device.tile, hrecord, fetch_eq_ok_iff] at htile
  rw [hsites tile (Array.mem_of_getElem? htile)] at hfound
  obtain rfl := Except.ok.inj hfound
  exact hanchor.trans hxy

/-- The tile across is in the column of the neighbour, one row farther. -/
theorem estimates_grow_corner : ∃ db d, ChipDatabase.ofRecord cornerRecord ⟨[]⟩ = .ok db ∧
    Device.ofDatabase db = .ok (.ok d) ∧ Context.Small { device := d } ∧
    d.HasWire (.tile 0 1) ∧ d.HasWire (.tile 1 1) ∧ d.HasWire (.tile 3 1) ∧
    Context.wireAnchor { device := d } (.tile 0 1) = .ok (0, 0) ∧
    Context.wireAnchor { device := d } (.tile 1 1) = .ok (1, 0) ∧
    Context.wireAnchor { device := d } (.tile 3 1) = .ok (1, 1) ∧
    NoFarther (0, 0) (1, 0) (1, 1) ∧ ∃ near far,
      Context.estimateDelay { device := d } (.tile 0 1) (.tile 1 1) = .ok near ∧
      Context.estimateDelay { device := d } (.tile 0 1) (.tile 3 1) = .ok far ∧ near < far := by
  obtain ⟨db, d, accepted, opened, hrecord, -⟩ := cornerRecord_opens
  have hwire (t : Nat) (ht : t < 4) : d.HasWire (.tile t 1) := cornerRecord_hasWire hrecord ht
  have hanchor {t : Nat} (ht : t < 4) : Context.wireAnchor { device := d } (.tile t 1) =
      .ok (signed (t % 2), signed (t / 2)) := by
    refine cornerRecord_anchor hrecord (hwire t ht) ?_
    rw [Device.tileXY, hrecord]
    rfl
  have hsmall : Context.Small { device := d } := by
    apply small_of_places
    · rw [hrecord]
      decide
    · rw [hrecord]
      decide
    · rw [hrecord]
      simp [cornerRecord]
    · simp [sinkLocation]
  have hnoFarther : NoFarther (0, 0) (1, 0) (1, 1) := ⟨by decide, by decide⟩
  obtain ⟨delays, hdelays, -, hless⟩ := (estimates_grow (c := { device := d })
    (hwire 0 (by decide)) (hwire 1 (by decide)) (hwire 3 (by decide)) (by decide) (by decide)
    (by simp [sinkLocation]) (by simp [sinkLocation]) (hanchor (by decide)) (hanchor (by decide))
    (hanchor (by decide)) hnoFarther).resolve_right fun h => h.1 hsmall
  obtain ⟨near, hnear, hdelays⟩ := bind_eq_ok_iff.1 hdelays
  obtain ⟨far, hfar, hdelays⟩ := bind_eq_ok_iff.1 hdelays
  obtain rfl := Except.ok.inj hdelays
  exact ⟨db, d, accepted, opened, hsmall, hwire 0 (by decide), hwire 1 (by decide), hwire 3 (by decide),
    hanchor (by decide), hanchor (by decide), hanchor (by decide), hnoFarther, near, far, hnear, hfar,
    hless (.inr (by decide))⟩

end Interconnect
