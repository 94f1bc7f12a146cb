import Interconnect.Estimate
import Interconnect.Proofs.Device.Range
import Mathlib.Data.List.Basic
/-!
# Where the ends of a route are

Estimates reduce each end of a route to a point. It is made of coordinates that the device or a
discovered sink location has, and can only fail to be found if a distance outgrows its word.
-/
namespace Interconnect

section
variable {α β : Type} {big : Prop} {P : α → Prop} {Q : β → Prop} {q : Query α}

/-- A question that has an answer with a property, unless a number outgrows its word on the way. This only
happens where some number is big. -/
def AnswersUnless (big : Prop) (q : Query α) (P : α → Prop) : Prop :=
  Answers q P ∨ big ∧ q = .error .overflow

theorem Answers.unless (h : Answers q P) : AnswersUnless big q P := .inl h

theorem AnswersUnless.mono {R : α → Prop} (h : AnswersUnless big q P) (hPR : ∀ a, P a → R a) :
    AnswersUnless big q R := h.imp_left fun h => h.mono hPR

theorem AnswersUnless.bind {f : α → Query β} (h : AnswersUnless big q P)
    (hf : ∀ a, P a → AnswersUnless big (f a) Q) : AnswersUnless big (q >>= f) Q := by
  rcases h with ⟨a, rfl, ha⟩ | ⟨hbig, rfl⟩
  · exact hf a ha
  · exact .inr ⟨hbig, rfl⟩

theorem answersUnless_word {n : Int} (h : ¬ big → FitsWord n) :
    AnswersUnless big (word n) (· = n) := by
  by_cases hn : FitsWord n
  · exact .inl ⟨n, if_pos hn, rfl⟩
  · exact .inr ⟨not_not.1 (mt h hn), if_neg hn⟩

end

namespace Estimate

variable {goal q : Int × Int} {ps : List (Int × Int)}

theorem comparable_eq_true_iff : comparable goal ps = true ↔ ps.length < 2 ∨
    ∀ p ∈ ps, FitsWord (p.1 - goal.1).natAbs ∧ FitsWord (p.2 - goal.2).natAbs := by
  simp [comparable]

theorem foldl_nearer (goal a : Int) (as : List Int) : as.foldl (nearer goal) a ∈ a :: as ∧
    ∀ b ∈ a :: as, (as.foldl (nearer goal) a - goal).natAbs ≤ (b - goal).natAbs := by
  induction as generalizing a with
  | nil => simp
  | cons b bs ih =>
    obtain ⟨hmem, hle⟩ := ih (nearer goal a b)
    have hkeep : nearer goal a b = a ∧ (a - goal).natAbs ≤ (b - goal).natAbs ∨
        nearer goal a b = b ∧ (b - goal).natAbs ≤ (a - goal).natAbs := by
      unfold nearer
      split <;> omega
    have hfirst := hle (nearer goal a b) (by simp)
    rw [List.foldl_cons]
    refine ⟨?_, ?_⟩
    · simp only [List.mem_cons] at hmem ⊢
      rcases hkeep with ⟨heq, -⟩ | ⟨heq, -⟩ <;> simp only [heq] at hmem ⊢ <;> tauto
    · simp only [List.forall_mem_cons]
      refine ⟨by omega, by omega, fun x hx => hle x (by simp [hx])⟩

theorem nearestAxes_cons (goal p : Int × Int) (ps : List (Int × Int)) : nearestAxes goal (p :: ps) =
    some ((ps.map Prod.fst).foldl (nearer goal.1) p.1, (ps.map Prod.snd).foldl (nearer goal.2) p.2) := by
  simp only [nearestAxes, Option.some.injEq]
  induction ps generalizing p with
  | nil => rfl
  | cons q ps ih => simp [ih]

theorem nearestAxes_eq_none_iff : nearestAxes goal ps = none ↔ ps = [] := by
  cases ps <;> simp [nearestAxes]

/-- On each axis the point has a coordinate of the list, and no coordinate of the list is nearer. -/
theorem nearest_of_nearestAxes (h : nearestAxes goal ps = some q) :
    (q.1 ∈ ps.map Prod.fst ∧ ∀ p ∈ ps, (q.1 - goal.1).natAbs ≤ (p.1 - goal.1).natAbs) ∧
    (q.2 ∈ ps.map Prod.snd ∧ ∀ p ∈ ps, (q.2 - goal.2).natAbs ≤ (p.2 - goal.2).natAbs) := by
  cases ps with
  | nil => cases h
  | cons p ps =>
    rw [nearestAxes_cons] at h
    obtain rfl := Option.some.inj h
    have hx := foldl_nearer goal.1 p.1 (ps.map Prod.fst)
    have hy := foldl_nearer goal.2 p.2 (ps.map Prod.snd)
    rw [← List.map_cons] at hx hy
    exact ⟨⟨hx.1, fun p' hp' => hx.2 _ (List.mem_map_of_mem hp')⟩,
      ⟨hy.1, fun p' hp' => hy.2 _ (List.mem_map_of_mem hp')⟩⟩

end Estimate

namespace Context

open Estimate

variable {c : Context} {src dst w : WireId} {n : Nat} {goal xy : Int × Int}

/-! ### Points -/

/-- A point that a context knows: a sink location, where a site meets the interconnect, or a tile. -/
inductive Knows (c : Context) : Int × Int → Prop
  | sink {w : WireId} {p : Int × Int} (h : c.sinkLocation w = some p) : Knows c p
  | site {s : SiteId} {p : Int × Int} (h : c.device.siteInterXY s = .ok (some p)) : Knows c p
  | tile {t : Nat} {p : Int × Int} (ht : c.device.HasTile t) (h : c.device.tileXY t = .ok p) :
    Knows c p

theorem answers_tileXY {t : Nat} (ht : c.device.HasTile t) : Answers (c.device.tileXY t) c.Knows := by
  have h : c.device.tileXY t = .ok _ := if_neg ht.width_ne_zero
  exact ⟨_, h, .tile ht h⟩

theorem answers_tileXY_wireTile (hw : c.device.HasWire w) :
    Answers (do c.device.tileXY (← c.device.wireTile w)) c.Knows :=
  (Device.answers_wireTile hw).bind fun _ ht => answers_tileXY ht

/-- A wire of a tile that has no sink location is where its site meets the interconnect, or else in its tile. -/
theorem wireAnchor_tile {t i : Nat} (hw : c.device.HasWire (.tile t i))
    (hsink : c.sinkLocation (.tile t i) = none) : ∃ site found,
      c.device.wireSite (.tile t i) = .ok site ∧ c.device.siteInterXY ⟨t, site.getD 0⟩ = .ok found ∧
      c.wireAnchor (.tile t i) = match found with
        | some xy => .ok xy
        | none => c.device.tileXY t := by
  have ht : c.device.HasTile t := Device.HasMember.hasTile hw
  obtain ⟨tile, htile, -⟩ := Device.answers_tile ht
  obtain ⟨site, hsite, -⟩ := Device.answers_wireSite hw
  obtain ⟨found, hfound, -⟩ := Device.answers_siteInterXY (s := ⟨t, site.getD 0⟩) ht
  refine ⟨site, found, hsite, hfound, ?_⟩
  simp only [wireAnchor, hsink, htile, hsite, hfound, bind, Except.bind]
  split
  · next hbare =>
    -- a tile without sites has none that could say where it meets the interconnect
    have hsites : tile.sites = #[] := Array.isEmpty_iff.1 hbare
    simp only [Device.siteInterXY, htile, hsites, bind, Except.bind] at hfound
    obtain rfl := Except.ok.inj hfound
    rfl
  · cases found <;> rfl

theorem answers_wireAnchor (hw : c.device.HasWire w) : Answers (c.wireAnchor w) c.Knows := by
  cases hsink : c.sinkLocation w with
  | some xy =>
    rw [wireAnchor, hsink]
    exact answers_ok (.sink hsink)
  | none =>
    cases w with
    | node n =>
      rw [wireAnchor, hsink]
      exact answers_tileXY_wireTile hw
    | tile t i =>
      obtain ⟨site, found, -, hfound, hanchor⟩ := wireAnchor_tile hw hsink
      rw [hanchor]
      cases found with
      | some xy => exact answers_ok (.site hfound)
      | none => exact answers_tileXY (Device.HasMember.hasTile hw)

/-- A point whose column and row are those of known points, or whose column is the middle of the grid. -/
structure KnowsAxes (c : Context) (xy : Int × Int) : Prop where
  column : xy.1 = c.device.width.tdiv 2 ∨ ∃ p, c.Knows p ∧ p.1 = xy.1
  row : ∃ p, c.Knows p ∧ p.2 = xy.2

/-- The width of the grid and the coordinates of all known points leave room for their differences to be
multiplied by prices. -/
structure Small (c : Context) : Prop where
  width : c.device.width.natAbs ≤ 8388608
  column {p : Int × Int} (h : c.Knows p) : p.1.natAbs ≤ 8388608
  row {p : Int × Int} (h : c.Knows p) : p.2.natAbs ≤ 8388608

theorem small_of_places (hwidth : c.device.record.width ≤ 8388608)
    (hheight : c.device.record.height ≤ 8388608)
    (hsites : ∀ tile ∈ c.device.record.tiles, ∀ site ∈ tile.sites, ∀ p ∈ site.interXY,
      (signed p.1).natAbs ≤ 8388608 ∧ (signed p.2).natAbs ≤ 8388608)
    (hsinks : ∀ w p, c.sinkLocation w = some p → p.1.natAbs ≤ 8388608 ∧ p.2.natAbs ≤ 8388608) :
    c.Small := by
  have bound {p : Int × Int} (h : c.Knows p) : p.1.natAbs ≤ 8388608 ∧ p.2.natAbs ≤ 8388608 := by
    cases h with
    | sink h => exact hsinks _ p h
    | @site s _ h =>
      obtain ⟨tile, htile, h⟩ := bind_eq_ok_iff.1 h
      obtain ⟨site, hsite, h⟩ := Option.bind_eq_some_iff.1 (Except.ok.inj h)
      obtain ⟨⟨x, y⟩, hxy, rfl⟩ := Option.map_eq_some_iff.1 h
      simpa using hsites tile (Array.mem_of_getElem? (fetch_eq_ok_iff.1 htile)) site
        (Array.mem_of_getElem? hsite) (x, y) hxy
    | @tile t _ ht h =>
      have hcolumn := Nat.mod_lt t (Nat.pos_of_ne_zero ht.width_ne_zero)
      have hrow : t / c.device.record.width < c.device.record.height :=
        Nat.div_lt_of_lt_mul (c.device.valid.grid ▸ ht)
      rw [Device.tileXY, if_neg ht.width_ne_zero, signed_of_lt (by omega), signed_of_lt (by omega)] at h
      obtain rfl := Except.ok.inj h
      exact ⟨Nat.le_of_lt (Nat.lt_of_lt_of_le hcolumn hwidth),
        Nat.le_of_lt (Nat.lt_of_lt_of_le hrow hheight)⟩
  refine ⟨?_, fun h => (bound h).1, fun h => (bound h).2⟩
  rw [Device.width, signed_of_lt (by omega)]
  omega

theorem KnowsAxes.small (h : c.KnowsAxes xy) (hsmall : c.Small) :
    xy.1.natAbs ≤ 8388608 ∧ xy.2.natAbs ≤ 8388608 := by
  obtain ⟨hcolumn, p, hp, hrow⟩ := h
  constructor
  · rcases hcolumn with hmiddle | ⟨q, hq, hcolumn⟩
    · rw [hmiddle, Int.natAbs_tdiv]
      exact Nat.le_trans (Nat.div_le_self ..) hsmall.width
    · rw [← hcolumn]
      exact hsmall.column hq
  · rw [← hrow]
    exact hsmall.row hp

theorem comparable_of_small (hsmall : c.Small) (hgoal : c.Knows goal) {places : List (Int × Int)}
    (hplaces : ∀ p ∈ places, c.KnowsAxes p) : comparable goal places = true := by
  refine comparable_eq_true_iff.2 (.inr fun p hp => ?_)
  have hpsmall := (hplaces p hp).small hsmall
  have hgx := hsmall.column hgoal
  have hgy := hsmall.row hgoal
  simp only [FitsWord]
  omega

theorem Knows.axes (h : c.Knows xy) : c.KnowsAxes xy := ⟨.inr ⟨xy, h, rfl⟩, xy, h, rfl⟩

/-- A set of points that holds those of all tiles and sinks. With two points it holds the crossing of the
column of the first and the row of the second, and the middle column crosses the row of each. -/
structure Closed (c : Context) (P : Int × Int → Prop) : Prop where
  sink {w : WireId} {p : Int × Int} (h : c.sinkLocation w = some p) : P p
  tile {t : Nat} {p : Int × Int} (ht : c.device.HasTile t) (h : c.device.tileXY t = .ok p) : P p
  crossing {p q : Int × Int} (hp : P p) (hq : P q) : P (p.1, q.2)
  middle {p : Int × Int} (hp : P p) : P (c.device.width.tdiv 2, p.2)

theorem closed_knowsAxes (c : Context) : c.Closed c.KnowsAxes where
  sink h := (Knows.sink h).axes
  tile ht h := (Knows.tile ht h).axes
  crossing hp hq := by
    constructor
    · exact hp.column
    · exact hq.row
  middle hp := by
    constructor
    · exact .inl (by dsimp only)
    · exact hp.row

/-- The point of a member that counts for where its node is as a source. -/
def drivingPlace (c : Context) (intent : Ident) (m : TileWire) : Query (Option (Int × Int)) := do
  if (← c.device.memberInfo m).downhill.isEmpty && intent ≠ Known.ident "NODE_PINFEED" then
    return none
  else return some (← c.device.tileXY m.tile)

theorem drivingPlace_eq_some_iff {m : TileWire} {intent : Ident} :
    c.drivingPlace intent m = .ok (some xy) ↔ ∃ info, c.device.memberInfo m = .ok info ∧
      (info.downhill ≠ #[] ∨ intent = Known.ident "NODE_PINFEED") ∧
      c.device.tileXY m.tile = .ok xy := by
  rw [drivingPlace, bind_eq_ok_iff]
  refine exists_congr fun info => and_congr_right fun _ => ?_
  by_cases hcounts : info.downhill ≠ #[] ∨ intent = Known.ident "NODE_PINFEED"
  · have hkept : ¬ (info.downhill = #[] ∧ intent ≠ Known.ident "NODE_PINFEED") := by tauto
    simp [hcounts, hkept, bind_eq_ok_iff, pure, Except.pure]
  · have hleft : info.downhill = #[] ∧ intent ≠ Known.ident "NODE_PINFEED" := by tauto
    simp [hleft, pure, Except.pure]

namespace Closed

variable {P : Int × Int → Prop} (hP : c.Closed P)

include hP

theorem answers_tileXY {t : Nat} (ht : c.device.HasTile t) : Answers (c.device.tileXY t) P := by
  obtain ⟨p, hp, -⟩ := Context.answers_tileXY (c := c) ht
  exact ⟨p, hp, hP.tile ht hp⟩

theorem answers_powerAnchor (hw : c.device.HasWire src) :
    Answers (c.powerAnchor src) (∀ xy ∈ ·, P xy) := by
  refine (Device.answers_wireInfo hw).bind fun info _ => ?_
  dsimp only
  split
  · exact answers_ok (by simp)
  · refine (Device.answers_wireTile hw).bind fun t ht => (hP.answers_tileXY ht).bind fun xy hxy => ?_
    refine answers_ok fun p hp => ?_
    obtain rfl := Option.some.inj hp
    split
    · exact hP.middle hxy
    · exact hxy

theorem answers_drivingPlace {m : TileWire} (hm : c.device.HasMember m) (intent : Ident) :
    Answers (c.drivingPlace intent m) (∀ p ∈ ·, P p) := by
  refine (Device.answers_memberInfo hm).bind fun info _ => ?_
  split
  · exact answers_ok (by simp)
  · exact (hP.answers_tileXY hm.hasTile).map fun p hp => by simpa using hp

theorem answers_drivingMembers (hw : c.device.HasWire src) (intent : Ident) :
    Answers (c.drivingMembers src intent) (∀ p ∈ ·, P p) := by
  refine (Device.answers_wireMembers hw).bind fun members hmembers => ?_
  have each : Answers ((members.take memberLimit).mapM (c.drivingPlace intent))
      (∀ place ∈ ·, ∀ p ∈ place, P p) :=
    answers_mapM fun m hm => hP.answers_drivingPlace (hmembers m (List.mem_of_mem_take hm)) intent
  refine each.map fun places hplaces p hp => ?_
  obtain ⟨place, hplace, heq⟩ := List.mem_filterMap.1 hp
  exact hplaces place hplace p heq

theorem nearestAxes {places : List (Int × Int)} (hplaces : ∀ p ∈ places, P p)
    (h : Estimate.nearestAxes goal places = some xy) : P xy := by
  obtain ⟨⟨hx, -⟩, hy, -⟩ := nearest_of_nearestAxes h
  obtain ⟨p, hp, hpx⟩ := List.mem_map.1 hx
  obtain ⟨q, hq, hqy⟩ := List.mem_map.1 hy
  have hcrossing := hP.crossing (hplaces p hp) (hplaces q hq)
  rwa [hpx, hqy] at hcrossing

/-- A node that is a source is at a point of the set, or everywhere, as long as points of the set can be
compared by their distances. -/
theorem answersUnless_nodeAnchor {big : Prop} (hw : c.device.HasWire (.node n))
    (hnear : ¬ big → ∀ places : List (Int × Int), (∀ p ∈ places, P p) → comparable goal places = true) :
    AnswersUnless big (c.sourceAnchor (.node n) goal) (∀ xy ∈ ·, P xy) := by
  unfold sourceAnchor
  dsimp only
  split
  · next xy hsink => exact (answers_ok (by simpa using hP.sink hsink)).unless
  · refine (Device.answers_wireIntent hw).unless.bind fun intent _ => ?_
    split
    · exact (hP.answers_powerAnchor hw).unless
    · refine (hP.answers_drivingMembers hw intent).unless.bind fun places hplaces => ?_
      split
      · next hfar =>
        refine .inr ⟨not_not.1 fun hbig => ?_, rfl⟩
        rw [hnear hbig places hplaces] at hfar
        cases hfar
      · split
        · next xy hxy => exact (answers_ok (by simpa using hP.nearestAxes hplaces hxy)).unless
        · refine ((Device.answers_wireTile hw).bind fun t ht => ?_).unless
          exact (hP.answers_tileXY ht).map fun p hp => by simpa using hp

end Closed

theorem answersUnless_sourceAnchor (hw : c.device.HasWire src) (hgoal : c.Knows goal) :
    AnswersUnless (¬ c.Small) (c.sourceAnchor src goal) (∀ xy ∈ ·, c.KnowsAxes xy) := by
  cases src with
  | tile t i => exact ((answers_wireAnchor hw).map fun p hp => by simpa using hp.axes).unless
  | node n =>
    refine (closed_knowsAxes c).answersUnless_nodeAnchor hw fun hsmall places hplaces => ?_
    exact comparable_of_small (not_not.1 hsmall) hgoal hplaces

/-! ### Ends apart -/

def delayBetween (c : Context) (src dst : WireId) (srcXY dstXY : Int × Int) : Query Delay := do
  let intent ← c.device.wireIntent src
  let atSink : Delay := if (c.sinkLocation dst).isSome then 1000 else 0
  let price ← word ((← c.routePrice srcXY dstXY) + atSink)
  return price - intentDiscount intent (srcXY = dstXY)

theorem estimateDelay_of_apart (hne : src ≠ dst) (hmeet : c.meetsAtSink src dst = .ok false)
    (hdst : c.wireAnchor dst = .ok goal) : c.estimateDelay src dst = (do
      match ← c.sourceAnchor src goal with
      | none => return globalDelay
      | some p => c.delayBetween src dst p goal) := by
  rw [estimateDelay, if_neg hne, hmeet, hdst]
  rfl

end Context
end Interconnect
