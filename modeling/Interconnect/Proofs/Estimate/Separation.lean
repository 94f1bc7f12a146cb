import Interconnect.Proofs.Estimate.Nearest
/-!
# Estimates keep wires apart

No estimate between two wires is free. Distance only adds to the base of a route's price, and what a source's
intent takes off is less than that base.
-/
namespace Interconnect

/-! ### Prices -/

namespace AxisCost

variable {a : AxisCost}

theorem price_nonneg (hnear : 0 ≤ a.near) (hknee : 0 ≤ a.knee) (hfar : 0 ≤ a.far) (distance : Int) :
    0 ≤ a.price distance := by
  apply Int.add_nonneg
  · exact Int.mul_nonneg hnear (by omega)
  · exact Int.mul_nonneg hfar (by omega)

theorem price_le (hfar : a.far ≤ a.near) (distance : Int) :
    a.price distance ≤ (a.near - a.far) * a.knee + a.far * distance.natAbs := by
  have hsplit : a.far * distance.natAbs =
      a.far * min (distance.natAbs : Int) a.knee + a.far * max ((distance.natAbs : Int) - a.knee) 0 := by
    rw [← Int.mul_add]
    congr 1
    dsimp only [Delay]
    omega
  have hknee : (a.near - a.far) * min (distance.natAbs : Int) a.knee ≤ (a.near - a.far) * a.knee :=
    Int.mul_le_mul_of_nonneg_left (by omega) (Int.sub_nonneg_of_le hfar)
  rw [Int.sub_mul] at hknee
  dsimp only [price, Delay] at hsplit hknee ⊢
  omega

end AxisCost

namespace Context

open Estimate

variable {c : Context} {src dst : WireId} {p q : Int × Int}

theorem intentDiscount_bounds (intent : Ident) (here : Bool) :
    0 ≤ intentDiscount intent here ∧ intentDiscount intent here ≤ 200 := by
  have hapart : Known.ident "NODE_PINFEED" ≠ Known.ident "NODE_CLE_OUTPUT" := by decide
  unfold intentDiscount
  by_cases hpin : intent = Known.ident "NODE_PINFEED"
  · subst hpin
    rw [if_neg hapart]
    cases here <;> simp
  · simp only [hpin, decide_false, Bool.false_and, Bool.false_eq_true, if_false]
    split <;> split <;> simp

theorem base_bounds (hp : c.KnowsAxes p) (hq : c.Knows q) {base : Int}
    (hbase : base = AxisCost.routeX.price (q.1 - p.1) + AxisCost.routeY.price (q.2 - p.2) + routeBase) :
    300 ≤ base ∧ (c.Small → base ≤ 503317380) := by
  constructor
  · have hx := AxisCost.price_nonneg (a := .routeX) (by decide) (by decide) (by decide) (q.1 - p.1)
    have hy := AxisCost.price_nonneg (a := .routeY) (by decide) (by decide) (by decide) (q.2 - p.2)
    dsimp only [Delay, routeBase] at hx hy hbase
    omega
  · intro hsmall
    have hpsmall := hp.small hsmall
    have hqx := hsmall.column hq
    have hqy := hsmall.row hq
    have hx := AxisCost.price_le (a := .routeX) (by decide) (q.1 - p.1)
    have hy := AxisCost.price_le (a := .routeY) (by decide) (q.2 - p.2)
    dsimp only [Delay, routeBase, AxisCost.routeX, AxisCost.routeY] at hx hy hbase
    omega

theorem answersUnless_routePrice (hp : c.KnowsAxes p) (hq : c.Knows q) :
    AnswersUnless (¬ c.Small) (c.routePrice p q) fun price =>
      300 ≤ price ∧ (c.device.isXc7 = true → 450 ≤ price) ∧ (c.Small → price ≤ 1000000000) := by
  obtain ⟨base, hbase⟩ : ∃ base : Int, base =
    AxisCost.routeX.price (q.1 - p.1) + AxisCost.routeY.price (q.2 - p.2) + routeBase := ⟨_, rfl⟩
  obtain ⟨hfloor, hceiling⟩ := base_bounds hp hq hbase
  rw [routePrice, ← hbase]
  cases hfamily : c.device.isXc7 with
  | true =>
    refine (answersUnless_word fun hsmall => ?_).bind fun k hk => (answers_ok ?_).unless
    · have := hceiling (not_not.1 hsmall)
      simp only [FitsWord]
      omega
    · subst hk
      rw [Int.tdiv_eq_ediv_of_nonneg (by omega)]
      dsimp only [Delay]
      exact ⟨by omega, fun _ => by omega, fun hsmall => by have := hceiling hsmall; omega⟩
  | false =>
    refine (answersUnless_word fun hsmall => ?_).mono fun k hk => ?_
    · have := hceiling (not_not.1 hsmall)
      simp only [FitsWord]
      omega
    · subst hk
      exact ⟨hfloor, by simp, fun hsmall => Int.le_trans (hceiling hsmall) (by decide)⟩

theorem answers_meetsAtSink (hsrc : c.device.HasWire src) (hdst : c.device.HasWire dst) :
    Answers (c.meetsAtSink src dst) fun _ => True := by
  unfold meetsAtSink
  split
  · exact answers_ok trivial
  · refine (Device.answers_wireTile hsrc).bind fun t _ => (Device.answers_wireTile hdst).bind fun t' _ => ?_
    split <;> exact answers_ok trivial

/-- What a source's intent takes off leaves a third of the base. -/
theorem answersUnless_delayBetween (hsrc : c.device.HasWire src) (hp : c.KnowsAxes p) (hq : c.Knows q) :
    AnswersUnless (¬ c.Small) (c.delayBetween src dst p q) fun delay =>
      100 ≤ delay ∧ (c.device.isXc7 = true → 250 ≤ delay) := by
  refine (Device.answers_wireIntent hsrc).unless.bind fun intent _ => ?_
  refine (answersUnless_routePrice hp hq).bind fun price hprice => ?_
  obtain ⟨hbase, hscaled, hbound⟩ := hprice
  have hdiscount := intentDiscount_bounds intent (decide (p = q))
  obtain ⟨atSink, hatSink, hmore, hless⟩ : ∃ atSink : Delay,
      atSink = (if (c.sinkLocation dst).isSome then 1000 else 0) ∧ 0 ≤ atSink ∧ atSink ≤ 1000 := by
    refine ⟨_, rfl, ?_⟩
    split <;> decide
  rw [← hatSink]
  dsimp only [Delay] at hbase hscaled hbound hdiscount hmore hless ⊢
  refine (answersUnless_word fun hsmall => ?_).bind fun total htotal => (answers_ok ?_).unless
  · have hceiling := hbound (not_not.1 hsmall)
    simp only [FitsWord]
    omega
  · subst htotal
    refine ⟨by omega, fun hfamily => ?_⟩
    have hfloor := hscaled hfamily
    omega

end Context

open Context

variable {c : Context} {src dst : WireId}

/-- An estimate is nothing only from a wire to itself. Between two wires it is at least a third of the base
price of a route, and more on the older family. -/
theorem estimates_keep_apart (hsrc : c.device.HasWire src) (hdst : c.device.HasWire dst) :
    AnswersUnless (¬ c.Small) (c.estimateDelay src dst) fun delay => (delay = 0 ↔ src = dst) ∧
      (src ≠ dst → 100 ≤ delay ∧ (c.device.isXc7 = true → 250 ≤ delay)) := by
  by_cases hsame : src = dst
  · rw [estimateDelay, if_pos hsame]
    exact (answers_ok ⟨by simp [hsame], fun hne => absurd hsame hne⟩).unless
  · have apart {q : Query Delay} (h : AnswersUnless (¬ c.Small) q fun delay =>
        100 ≤ delay ∧ (c.device.isXc7 = true → 250 ≤ delay)) :
        AnswersUnless (¬ c.Small) q fun delay => (delay = 0 ↔ src = dst) ∧
          (src ≠ dst → 100 ≤ delay ∧ (c.device.isXc7 = true → 250 ≤ delay)) := by
      refine h.mono fun delay hdelay => ⟨⟨?_, fun heq => absurd heq hsame⟩, fun _ => hdelay⟩
      intro hzero
      rw [hzero] at hdelay
      exact absurd hdelay.1 (by decide)
    obtain ⟨met, hmeet, -⟩ := answers_meetsAtSink hsrc hdst
    obtain ⟨goal, hgoal, known⟩ := answers_wireAnchor hdst
    cases met with
    | true =>
      rw [estimateDelay, if_neg hsame, hmeet]
      exact apart (answers_ok ⟨by decide, fun _ => by decide⟩).unless
    | false =>
      rw [estimateDelay_of_apart hsame hmeet hgoal]
      refine apart ((answersUnless_sourceAnchor hsrc known).bind fun found hfound => ?_)
      cases found with
      | none => exact (answers_ok ⟨by decide, fun _ => by decide⟩).unless
      | some p => exact answersUnless_delayBetween hsrc (hfound p rfl) known

theorem estimates_keep_apart_corner : ∃ db d, ChipDatabase.ofRecord cornerRecord ⟨[]⟩ = .ok db ∧
    Device.ofDatabase db = .ok (.ok d) ∧ d.HasWire (.node 0) ∧ d.HasWire (.tile 0 1) ∧
    Context.Small { device := d } ∧
    ∃ delay, Context.estimateDelay { device := d } (.node 0) (.tile 0 1) = .ok delay ∧ 100 ≤ delay := by
  obtain ⟨db, d, accepted, opened, hrecord, -, -, -, -, -, -, hsink, -⟩ := cornerRecord_opens
  have hnode : d.HasWire (.node 0) := by
    show 0 < d.record.nodes.size
    rw [hrecord]
    decide
  have hwire : d.HasWire (.tile 0 1) := by
    obtain ⟨tt, htype, hwires⟩ := bind_eq_ok_iff.1 hsink
    exact ⟨tt, htype, lt_size_of_fetch hwires⟩
  have hsmall : Context.Small { device := d } := by
    apply small_of_places
    · rw [hrecord]
      decide
    · rw [hrecord]
      decide
    · rw [hrecord]
      simp [cornerRecord]
    · simp [sinkLocation]
  obtain ⟨delay, hdelay, -, hleast⟩ :=
    (estimates_keep_apart (c := { device := d }) hnode hwire).resolve_right fun h => h.1 hsmall
  exact ⟨db, d, accepted, opened, hnode, hwire, hsmall, delay, hdelay, (hleast (by decide)).1⟩

end Interconnect
