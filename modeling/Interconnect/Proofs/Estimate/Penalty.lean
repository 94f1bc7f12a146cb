import Interconnect.Proofs.Estimate.Distance
import Interconnect.Proofs.Settings.Accepted
/-!
# Costs of accepted settings

Settings are checked to have neither a negative penalty nor a negative threshold. The price of leaving a box is
not checked, and where it is negative a route is the cheaper the farther it leaves its box.
-/
namespace Interconnect

/-- The cost of leaving a box by a distance. Some of it is free, and every step beyond has a price. -/
def leavingCost (free price distance : Int) : Delay :=
  if distance < free then 0 else (distance - free) * price

section
variable {free price d d₁ d₂ : Int}

theorem leavingCost_of_le (h : d ≤ free) : leavingCost free price d = 0 := by
  unfold leavingCost
  split
  · rfl
  · obtain rfl : d = free := by omega
    rw [Int.sub_self, Int.zero_mul]

theorem leavingCost_of_ge (h : free ≤ d) : leavingCost free price d = (d - free) * price :=
  if_neg (Int.not_lt.2 h)

theorem leavingCost_nonneg (hprice : 0 ≤ price) (d : Int) : 0 ≤ leavingCost free price d := by
  rcases Int.le_total d free with h | h
  · exact Int.le_of_eq (leavingCost_of_le h).symm
  · rw [leavingCost_of_ge h]
    exact Int.mul_nonneg (by omega) hprice

theorem leavingCost_mono (hprice : 0 ≤ price) (h : d₁ ≤ d₂) :
    leavingCost free price d₁ ≤ leavingCost free price d₂ := by
  rcases Int.le_total d₁ free with hfree | hfree
  · rw [leavingCost_of_le hfree]
    exact leavingCost_nonneg hprice d₂
  · rw [leavingCost_of_ge hfree, leavingCost_of_ge (by omega)]
    exact Int.mul_le_mul_of_nonneg_right (by omega) hprice

theorem leavingCost_neg (hprice : price < 0) (h : free < d) : leavingCost free price d < 0 := by
  rw [leavingCost_of_ge (Int.le_of_lt h)]
  exact Int.mul_neg_of_pos_of_neg (by omega) hprice

/-- Costs are not negative and do not fall on the way to a distance, unless a price is negative and is paid. -/
theorem leavingCost_grows_iff (h : d₁ ≤ d₂) :
    0 ≤ leavingCost free price d₁ ∧ leavingCost free price d₁ ≤ leavingCost free price d₂ ↔
      d₂ ≤ free ∨ 0 ≤ price := by
  by_cases hfree : d₂ ≤ free
  · rw [leavingCost_of_le hfree, leavingCost_of_le (Int.le_trans h hfree)]
    simp [hfree]
  · by_cases hprice : 0 ≤ price
    · exact iff_of_true ⟨leavingCost_nonneg hprice d₁, leavingCost_mono hprice h⟩ (.inr hprice)
    · have hneg : leavingCost free price d₂ < 0 := leavingCost_neg (Int.not_le.1 hprice) (Int.not_le.1 hfree)
      refine iff_of_false (fun hgrows => ?_) (by tauto)
      exact Int.not_le.2 hneg (Int.le_trans hgrows.1 hgrows.2)

end

namespace Context

open Estimate

variable {c : Context} {src w : WireId} {big : Prop} {d : Int} {intent : Ident}

/-! ### Leaving a box -/

/-- Whether a wire leaves its boxes for free. Nodes of constants do. -/
def leavesFree (c : Context) : WireId → Query Bool
  | .tile .. => .ok false
  | .node n => isPower <$> c.device.wireIntent (.node n)

theorem answers_leavesFree (hw : c.device.HasWire src) : ∃ free, c.leavesFree src = .ok free := by
  cases src with
  | tile t i => exact ⟨false, rfl⟩
  | node n =>
    obtain ⟨intent, hintent, -⟩ := Device.answers_wireIntent hw
    exact ⟨isPower intent, by rw [leavesFree, hintent]; rfl⟩

theorem boxCost_eq (src : WireId) (d : Int) : c.boxCost src d = (do
    if (← c.leavesFree src) || d < c.estimator.boxThreshold then return 0
    word ((d - c.estimator.boxThreshold) * c.estimator.boxCostPerUnit)) := by
  cases src <;> rfl

theorem boxCost_of_leavesFree (h : c.leavesFree src = .ok true) (d : Int) : c.boxCost src d = .ok 0 := by
  rw [boxCost_eq, h]
  rfl

theorem answersUnless_boxCost (hpaid : c.leavesFree src = .ok false)
    (h : ¬ big → FitsWord ((d - c.estimator.boxThreshold) * c.estimator.boxCostPerUnit)) :
    AnswersUnless big (c.boxCost src d)
      (· = leavingCost c.estimator.boxThreshold c.estimator.boxCostPerUnit d) := by
  rw [boxCost_eq, hpaid]
  by_cases hfree : d < c.estimator.boxThreshold
  · exact .inl ⟨0, by simp [hfree, bind, Except.bind, pure, Except.pure], (if_pos hfree).symm⟩
  · rw [leavingCost_of_ge (Int.not_lt.1 hfree)]
    simpa [hfree, bind, Except.bind, pure, Except.pure] using answersUnless_word h

/-! ### Ripping up -/

theorem wireRipupPenalty_of_feed (h : c.device.wireIntent w = .ok (Known.ident "NODE_PINFEED")) :
    c.wireRipupPenalty w = (do return (← word (c.ripupPenalty * 3)).tdiv 2) := by
  rw [wireRipupPenalty, h]
  rfl

theorem wireRipupPenalty_of_other (h : c.device.wireIntent w = .ok intent)
    (hother : intent ≠ Known.ident "NODE_PINFEED") : c.wireRipupPenalty w = .ok c.ripupPenalty := by
  rw [wireRipupPenalty, h]
  simp [hother, bind, Except.bind, pure, Except.pure]

theorem answersUnless_wireRipupPenalty (hw : c.device.HasWire w) (hpenalty : 0 ≤ c.ripupPenalty)
    (h : ¬ big → FitsWord (c.ripupPenalty * 3)) :
    AnswersUnless big (c.wireRipupPenalty w) fun penalty =>
      c.ripupPenalty ≤ penalty ∧ penalty ≤ (c.ripupPenalty * 3).tdiv 2 ∧
      (c.device.wireIntent w = .ok (Known.ident "NODE_PINFEED") →
        penalty = (c.ripupPenalty * 3).tdiv 2) := by
  have hmore : c.ripupPenalty ≤ (c.ripupPenalty * 3).tdiv 2 := by
    rw [Int.tdiv_eq_ediv_of_nonneg (by omega)]
    omega
  obtain ⟨intent, hintent, -⟩ := Device.answers_wireIntent hw
  by_cases hfeed : intent = Known.ident "NODE_PINFEED"
  · rw [wireRipupPenalty_of_feed (hfeed ▸ hintent)]
    refine (answersUnless_word h).bind fun k hk => (answers_ok ?_).unless
    obtain rfl := hk
    exact ⟨hmore, Int.le_refl _, fun _ => rfl⟩
  · rw [wireRipupPenalty_of_other hintent hfeed]
    refine (answers_ok ⟨Int.le_refl _, hmore, fun hfeed' => ?_⟩).unless
    exact absurd (Except.ok.inj (hintent.symm.trans hfeed')) hfeed

end Context

open Context

variable {c : Context} {s : RunSettings} {text : String}

/-- With accepted settings the costs of leaving a box are not negative and do not fall with the distance, exactly
if the wire leaves for free, or no step is paid for, or the price is not negative. No penalty of ripping up is
negative, and a pin feed has the greatest. -/
theorem accepted_costs (htext : Settings.ofText text = .ok s) (hc : c.TunedBy s) :
    (∀ src d₁ d₂, c.device.HasWire src → d₁ ≤ d₂ →
      AnswersUnless
        (¬ (FitsWord ((d₁ - s.estimator.boxThreshold) * s.estimator.boxCostPerUnit) ∧
          FitsWord ((d₂ - s.estimator.boxThreshold) * s.estimator.boxCostPerUnit)))
        (do return (← c.boxCost src d₁, ← c.boxCost src d₂))
        fun costs => 0 ≤ costs.1 ∧ costs.1 ≤ costs.2 ↔ c.leavesFree src = .ok true ∨
          d₂ ≤ s.estimator.boxThreshold ∨ 0 ≤ s.estimator.boxCostPerUnit) ∧
    ∀ w feed, c.device.HasWire w → c.device.HasWire feed →
      AnswersUnless (¬ FitsWord (s.ripupPenalty * 3))
        (do return (← c.wireRipupPenalty w, ← c.wireRipupPenalty feed))
        fun penalties => 0 ≤ penalties.1 ∧ 0 ≤ penalties.2 ∧
          (c.device.wireIntent feed = .ok (Known.ident "NODE_PINFEED") → penalties.1 ≤ penalties.2) := by
  obtain ⟨-, sense⟩ := Settings.accepted_of_ofText htext
  rw [← hc.estimator, ← hc.penalty]
  have hpenalty : 0 ≤ c.ripupPenalty := hc.penalty ▸ sense.penalty
  constructor
  · intro src d₁ d₂ hw hle
    obtain ⟨free, hfree⟩ := answers_leavesFree hw
    cases free with
    | true =>
      rw [boxCost_of_leavesFree hfree, boxCost_of_leavesFree hfree]
      exact .inl ⟨(0, 0), rfl, iff_of_true (by decide) (.inl hfree)⟩
    | false =>
      refine (answersUnless_boxCost hfree fun hbig => (not_not.1 hbig).1).both
        (answersUnless_boxCost hfree fun hbig => (not_not.1 hbig).2) fun cost₁ cost₂ _ _ h₁ h₂ => ?_
      dsimp only
      rw [h₁, h₂, leavingCost_grows_iff hle, hfree]
      simp
  · intro w feed hw hfeed
    refine (answersUnless_wireRipupPenalty hw hpenalty not_not.1).both
      (answersUnless_wireRipupPenalty hfeed hpenalty not_not.1) fun penalty₁ penalty₂ _ _ h₁ h₂ => ?_
    dsimp only
    refine ⟨Int.le_trans hpenalty h₁.1, Int.le_trans hpenalty h₂.1, fun hintent => ?_⟩
    rw [h₂.2.2 hintent]
    exact h₁.2.1

/-! Settings that set the price of leaving a box, and nothing else. -/

def pricedSettings (price : Int) : RunSettings where
  chipFile := "a.bin"
  estimator := { boxCostPerUnit := price }

def pricedContext (d : Device) (price : Int) : Context := { device := d, estimator.boxCostPerUnit := price }

theorem applySettings_priced (d : Device) (price : Int) :
    Context.applySettings { device := d } (pricedSettings price) = .ok (pricedContext d price) := rfl

/-- Each step has its price. -/
theorem accepted_costs_priced : ∃ s db d, ∃ c : Context,
    Settings.ofText (estimatorText "bbox_cost_per_unit" "2") = .ok s ∧
    ChipDatabase.ofRecord cornerRecord ⟨[]⟩ = .ok db ∧ Device.ofDatabase db = .ok (.ok d) ∧
    Context.applySettings { device := d } s = .ok c ∧ c.device.HasWire (.tile 0 1) ∧
    ∃ near far, c.boxCost (.tile 0 1) 6 = .ok near ∧ c.boxCost (.tile 0 1) 7 = .ok far ∧
      0 ≤ near ∧ near ≤ far := by
  have htext : Settings.ofText (estimatorText "bbox_cost_per_unit" "2") = .ok (pricedSettings 2) := by
    decide +kernel
  obtain ⟨db, d, accepted, opened, hrecord, -⟩ := cornerRecord_opens
  have happlied := applySettings_priced d 2
  have hwire : d.HasWire (.tile 0 1) := cornerRecord_hasWire hrecord (by decide)
  obtain ⟨costs, hcosts, hgrows⟩ :=
    ((accepted_costs htext (tunedBy_of_applySettings happlied)).1 (.tile 0 1) 6 7 hwire
      (by decide)).resolve_right fun h => h.1 (by decide)
  obtain ⟨near, hnear, hcosts⟩ := bind_eq_ok_iff.1 hcosts
  obtain ⟨far, hfar, hcosts⟩ := bind_eq_ok_iff.1 hcosts
  obtain rfl := Except.ok.inj hcosts
  obtain ⟨hleast, hle⟩ := hgrows.2 (.inr (.inr (by decide)))
  exact ⟨_, db, d, _, htext, accepted, opened, happlied, hwire, near, far, hnear, hfar, hleast, hle⟩

/-- A negative price is accepted, and the first step is rewarded. -/
theorem negative_price_accepted : ∃ s db d, ∃ c : Context,
    Settings.ofText (estimatorText "bbox_cost_per_unit" "-1") = .ok s ∧
    ChipDatabase.ofRecord cornerRecord ⟨[]⟩ = .ok db ∧ Device.ofDatabase db = .ok (.ok d) ∧
    Context.applySettings { device := d } s = .ok c ∧ c.device.HasWire (.tile 0 1) ∧
    c.boxCost (.tile 0 1) 6 = .ok (-1) := by
  have htext : Settings.ofText (estimatorText "bbox_cost_per_unit" "-1") = .ok (pricedSettings (-1)) := by
    decide +kernel
  obtain ⟨db, d, accepted, opened, hrecord, -⟩ := cornerRecord_opens
  exact ⟨_, db, d, _, htext, accepted, opened, applySettings_priced d (-1),
    cornerRecord_hasWire hrecord (by decide), rfl⟩

end Interconnect
