import Interconnect.Proofs.Device.Member
import Interconnect.Proofs.Estimate.Anchor
import Mathlib.Order.Bounds.Defs
/-!
# The place of a node as a source

Seen from a destination, a node is as far away on each axis as the nearest of its first members that drive
something. The column and the row may come from different members, so no member need stand there.
-/
namespace Interconnect

theorem length_filterMap_lt_two_iff {α : Type} {xs : List (Option α)} :
    (xs.filterMap id).length < 2 ↔
      ∀ (i j : Nat) (a b : α), xs[i]? = some (some a) → xs[j]? = some (some b) → i = j := by
  induction xs with
  | nil => simp
  | cons x xs ih =>
    cases x with
    | none =>
      rw [List.filterMap_cons_none rfl, ih]
      constructor
      · intro h i j a b hi hj
        cases i <;> cases j <;> simp at hi hj ⊢
        exact h _ _ a b hi hj
      · intro h i j a b hi hj
        exact Nat.succ.inj (h (i + 1) (j + 1) a b (by simpa using hi) (by simpa using hj))
    | some a =>
      have hrest : (xs.filterMap id).length < 1 ↔ ∀ (j : Nat) (b : α), xs[j]? ≠ some (some b) := by
        simp only [Nat.lt_one_iff, List.length_eq_zero_iff, List.filterMap_eq_nil_iff,
          List.mem_iff_getElem?]
        constructor
        · intro h j b hj
          exact Option.some_ne_none b (h _ ⟨j, hj⟩)
        · intro h x hx
          obtain ⟨j, hj⟩ := hx
          cases x with
          | none => rfl
          | some b => exact absurd hj (h j b)
      rw [List.filterMap_cons_some (f := id) (a := some a) rfl, List.length_cons, Nat.succ_lt_succ_iff, hrest]
      constructor
      · intro h i j b b' hi hj
        cases i with
        | zero => cases j with
          | zero => rfl
          | succ j => exact absurd (by simpa using hj) (h j b')
        | succ i => exact absurd (by simpa using hi) (h i b)
      · intro h j b hj
        exact absurd (h 0 (j + 1) a b rfl (by simpa using hj)) (by simp)

namespace Rect

theorem width_spanning (a b : Int × Int) :
    (spanning a b).x1 - (spanning a b).x0 = (a.1 - b.1).natAbs := by
  simp only [spanning]
  omega

theorem height_spanning (a b : Int × Int) :
    (spanning a b).y1 - (spanning a b).y0 = (a.2 - b.2).natAbs := by
  simp only [spanning]
  omega

end Rect

namespace Device

variable {d : Device} {n : Nat} {goal p : Int × Int}

/-- The point of a member that counts, at a place in the list of its node: it is one of the first, and it
drives something or its node is a pin feed. -/
def Eligible (d : Device) (n i : Nat) (p : Int × Int) : Prop :=
  ∃ node m info, d.record.nodes[n]? = some node ∧ i < 200 ∧ node.tileWires[i]? = some m ∧
    d.memberInfo m = .ok info ∧ (info.downhill ≠ #[] ∨ node.intent = Known.ident "NODE_PINFEED") ∧
    d.tileXY m.tile = .ok p

/-- How far, in columns and in rows, the nearest members that count are from a point. The two may differ. -/
structure NearestAre (d : Device) (n : Nat) (goal : Int × Int) (columns rows : Int) : Prop where
  column : IsLeast {k : Int | ∃ i p, d.Eligible n i p ∧ k = (p.1 - goal.1).natAbs} columns
  row : IsLeast {k : Int | ∃ i p, d.Eligible n i p ∧ k = (p.2 - goal.2).natAbs} rows

/-- Members need not be compared, or their distances are signed words. -/
def Measurable (d : Device) (n : Nat) (goal : Int × Int) : Prop :=
  (∀ i j p q, d.Eligible n i p → d.Eligible n j q → i = j) ∨
  ∀ i p, d.Eligible n i p → FitsWord (p.1 - goal.1).natAbs ∧ FitsWord (p.2 - goal.2).natAbs

end Device

namespace Context

open Estimate

variable {c : Context} {src dst : WireId} {n : Nat} {node : Node} {goal p : Int × Int}

theorem routeBox_of_anchor (hdst : c.wireAnchor dst = .ok goal)
    (hsrc : c.sourceAnchor src goal = .ok (some p)) :
    c.routeBox src dst = .ok (Rect.spanning p goal) := by
  rw [routeBox, hdst]
  simp only [bind, Except.bind, hsrc]
  rfl

/-- Both the box and the delay of a route start from a point. -/
structure StartsAt (c : Context) (src dst : WireId) (goal p : Int × Int) : Prop where
  box : c.routeBox src dst = .ok (Rect.spanning p goal)
  delay : src ≠ dst → c.meetsAtSink src dst = .ok false →
    c.estimateDelay src dst = c.delayBetween src dst p goal

theorem startsAt_of_anchor (hdst : c.wireAnchor dst = .ok goal)
    (hsrc : c.sourceAnchor src goal = .ok (some p)) : c.StartsAt src dst goal p where
  box := routeBox_of_anchor hdst hsrc
  delay hne hmeet := by
    rw [estimateDelay_of_apart hne hmeet hdst, hsrc]
    rfl

theorem eligible_iff_drivingPlace (hnode : c.device.record.nodes[n]? = some node) {i : Nat} :
    c.device.Eligible n i p ↔ ∃ m, (node.tileWires.toList.take memberLimit)[i]? = some m ∧
      c.drivingPlace node.intent m = .ok (some p) := by
  have hmembers : ∀ m, (node.tileWires.toList.take memberLimit)[i]? = some m ↔
      i < 200 ∧ node.tileWires[i]? = some m := by
    intro m
    rw [List.getElem?_take, Option.ite_none_right_eq_some, Array.getElem?_toList]
    rfl
  simp only [hmembers, drivingPlace_eq_some_iff]
  constructor
  · intro h
    obtain ⟨node', m, info, hnode', hi, hm, hinfo, hcounts, hp⟩ := h
    obtain rfl : node' = node := Option.some.inj (hnode'.symm.trans hnode)
    exact ⟨m, ⟨hi, hm⟩, info, hinfo, hcounts, hp⟩
  · intro h
    obtain ⟨m, ⟨hi, hm⟩, info, hinfo, hcounts, hp⟩ := h
    exact ⟨node, m, info, hnode, hi, hm, hinfo, hcounts, hp⟩

theorem exists_drivingMembers (hnode : c.device.record.nodes[n]? = some node) :
    ∃ places, c.drivingMembers (.node n) node.intent = .ok places ∧
      (∀ p, p ∈ places ↔ ∃ i, c.device.Eligible n i p) ∧
      (places.length < 2 ↔ ∀ i j p q, c.device.Eligible n i p → c.device.Eligible n j q → i = j) := by
  have hlist : c.device.wireMembers (.node n) = .ok node.tileWires.toList := by
    rw [Device.wireMembers, fetch_eq_ok_iff.2 hnode]
    rfl
  have hwalk : c.drivingMembers (.node n) node.intent = (do
      let places ← ((← c.device.wireMembers (.node n)).take memberLimit).mapM
        (c.drivingPlace node.intent)
      return places.filterMap id) := rfl
  have members : ∀ m ∈ node.tileWires.toList.take memberLimit, c.device.HasMember m := fun m hm =>
    Device.hasMember_of_valid (c.device.valid.nodes _ (Array.mem_of_getElem? hnode))
      (Array.mem_toList_iff.1 (List.mem_of_mem_take hm))
  obtain ⟨found, hfound, -⟩ := answers_mapM fun m hm =>
    (closed_knowsAxes c).answers_drivingPlace (members m hm) node.intent
  have heligible : ∀ i p, found[i]? = some (some p) ↔ c.device.Eligible n i p := by
    intro i p
    rw [eligible_iff_drivingPlace hnode]
    rcases getElem?_of_mapM hfound i with ⟨hnone, hnowhere⟩ | ⟨m, place, hm, hplace, hasked⟩
    · simp [hnone, hnowhere]
    · simp [hm, hplace, hasked]
  refine ⟨found.filterMap id, ?_, fun p => ?_, ?_⟩
  · rw [hwalk, hlist]
    simp only [bind, Except.bind, hfound]
    rfl
  · rw [List.mem_filterMap]
    simp [List.mem_iff_getElem?, heligible]
  · simp only [length_filterMap_lt_two_iff, heligible]

theorem nearestAre_of_nearestAxes {places : List (Int × Int)}
    (hmem : ∀ p, p ∈ places ↔ ∃ i, c.device.Eligible n i p) (h : nearestAxes goal places = some p) :
    c.device.NearestAre n goal (p.1 - goal.1).natAbs (p.2 - goal.2).natAbs := by
  obtain ⟨⟨hx, hcolumn⟩, hy, hrow⟩ := nearest_of_nearestAxes h
  obtain ⟨q, hq, hqx⟩ := List.mem_map.1 hx
  obtain ⟨r, hr, hry⟩ := List.mem_map.1 hy
  obtain ⟨i, hi⟩ := (hmem q).1 hq
  obtain ⟨j, hj⟩ := (hmem r).1 hr
  constructor
  · refine ⟨⟨i, q, hi, by rw [hqx]⟩, fun k hk => ?_⟩
    obtain ⟨i', q', hq', rfl⟩ := hk
    exact Int.ofNat_le.2 (hcolumn q' ((hmem q').2 ⟨i', hq'⟩))
  · refine ⟨⟨j, r, hj, by rw [hry]⟩, fun k hk => ?_⟩
    obtain ⟨i', q', hq', rfl⟩ := hk
    exact Int.ofNat_le.2 (hrow q' ((hmem q').2 ⟨i', hq'⟩))

theorem sourceAnchor_node (hnode : c.device.record.nodes[n]? = some node)
    (hpower : isPower node.intent = false) (hsink : c.sinkLocation (.node n) = none)
    {places : List (Int × Int)}
    (hplaces : c.drivingMembers (.node n) node.intent = .ok places) (goal : Int × Int) :
    c.sourceAnchor (.node n) goal =
      if comparable goal places then
        match nearestAxes goal places with
        | some xy => .ok (some xy)
        | none => do return some (← c.device.tileXY (← c.device.wireTile (.node n)))
      else .error .overflow := by
  have hintent : c.device.wireIntent (.node n) = .ok node.intent := by
    rw [Device.wireIntent, fetch_eq_ok_iff.2 hnode]
    rfl
  rw [sourceAnchor]
  simp only [hsink, hintent, bind, Except.bind, hpower, Bool.false_eq_true, if_false, hplaces]
  cases comparable goal places with
  | true => cases nearestAxes goal places <;> rfl
  | false => rfl

/-- Points can be compared exactly if no two members count, or all that count are within reach. -/
theorem comparable_iff_measurable {places : List (Int × Int)}
    (hmem : ∀ p, p ∈ places ↔ ∃ i, c.device.Eligible n i p)
    (hlength : places.length < 2 ↔
      ∀ i j p q, c.device.Eligible n i p → c.device.Eligible n j q → i = j) :
    comparable goal places = true ↔ c.device.Measurable n goal := by
  rw [comparable_eq_true_iff, hlength, Device.Measurable]
  refine or_congr_right ⟨fun h i p hp => h p ((hmem p).2 ⟨i, hp⟩), fun h p hp => ?_⟩
  obtain ⟨i, hi⟩ := (hmem p).1 hp
  exact h i p hi

theorem exists_firstMember (hnode : c.device.record.nodes[n]? = some node) :
    ∃ m p, node.tileWires[0]? = some m ∧ c.device.wireTile (.node n) = .ok m.tile ∧
      c.device.tileXY m.tile = .ok p := by
  have valid : node.Valid c.device.record := c.device.valid.nodes _ (Array.mem_of_getElem? hnode)
  obtain ⟨m, hm, hmember⟩ := answers_fetch valid.nonempty
  obtain ⟨p, hp, -⟩ := answers_tileXY (c := c) (Device.hasMember_of_valid valid hmember).hasTile
  refine ⟨m, p, fetch_eq_ok_iff.1 hm, ?_, hp⟩
  rw [Device.wireTile, Device.canonicalMember, fetch_eq_ok_iff.2 hnode]
  simp only [bind, Except.bind, hm]
  rfl

/-- A node's box and delay start from the nearest column and the nearest row of its members that count, or
from its first member if none does. They are not found if distances that are compared outgrow their words. -/
theorem node_starts_nearest (hnode : c.device.record.nodes[n]? = some node)
    (hpower : isPower node.intent = false) (hsink : c.sinkLocation (.node n) = none)
    (hgoal : c.wireAnchor dst = .ok goal) :
    ((∃ i p, c.device.Eligible n i p) → c.device.Measurable n goal →
      ∃ p box, c.StartsAt (.node n) dst goal p ∧ c.routeBox (.node n) dst = .ok box ∧
        c.device.NearestAre n goal (p.1 - goal.1).natAbs (p.2 - goal.2).natAbs ∧
        c.device.NearestAre n goal (box.x1 - box.x0) (box.y1 - box.y0)) ∧
    ((∀ i p, ¬ c.device.Eligible n i p) → ∃ m p, node.tileWires[0]? = some m ∧
      c.device.tileXY m.tile = .ok p ∧ c.StartsAt (.node n) dst goal p) ∧
    (¬ c.device.Measurable n goal → c.routeBox (.node n) dst = .error .overflow ∧
      (.node n ≠ dst → c.meetsAtSink (.node n) dst = .ok false →
        c.estimateDelay (.node n) dst = .error .overflow)) := by
  obtain ⟨places, hplaces, hmem, hlength⟩ := exists_drivingMembers hnode
  have hanchor := sourceAnchor_node hnode hpower hsink hplaces goal
  have hcomparable : comparable goal places = true ↔ c.device.Measurable n goal :=
    comparable_iff_measurable hmem hlength
  refine ⟨fun hsome hmeasurable => ?_, fun hnone => ?_, fun hmeasurable => ?_⟩
  · obtain ⟨i, q, hq⟩ := hsome
    have hfound := (hmem q).2 ⟨i, hq⟩
    rw [if_pos (hcomparable.2 hmeasurable)] at hanchor
    cases hnearest : nearestAxes goal places with
    | none =>
      rw [nearestAxes_eq_none_iff.1 hnearest] at hfound
      cases hfound
    | some p =>
      rw [hnearest] at hanchor
      have nearest := nearestAre_of_nearestAxes hmem hnearest
      refine ⟨p, _, startsAt_of_anchor hgoal hanchor, routeBox_of_anchor hgoal hanchor, nearest, ?_⟩
      rwa [Rect.width_spanning, Rect.height_spanning]
  · obtain rfl : places = [] := List.eq_nil_iff_forall_not_mem.2 fun p hp => by
      obtain ⟨i, hi⟩ := (hmem p).1 hp
      exact hnone i p hi
    obtain ⟨m, p, hm, hfirst, hp⟩ := exists_firstMember hnode
    refine ⟨m, p, hm, hp, startsAt_of_anchor hgoal ?_⟩
    rw [hanchor, hfirst]
    simp only [bind, Except.bind, hp]
    rfl
  · rw [if_neg (mt hcomparable.1 hmeasurable)] at hanchor
    constructor
    · rw [routeBox, hgoal]
      simp only [bind, Except.bind, hanchor]
    · intro hne hmeet
      rw [estimateDelay_of_apart hne hmeet hgoal, hanchor]
      rfl

end Context

open Context Device

/-! Four tiles in a square. Two corners across from each other are joined in a node, and each drives a wire of
its own. -/

def cornerRecord : ChipRecord where
  name := "xcvu"
  generator := ""
  width := 2
  height := 2
  knownIdCount := Known.count
  extraIds := #["INT", "SOURCE", "SINK"]
  tileTypes := #[
    { typeName := Known.count
      wires := #[⟨Known.count + 1, 0, none, #[], #[0], #[]⟩, ⟨Known.count + 2, 0, none, #[0], #[], #[]⟩]
      pips := #[⟨0, 1, none, none, .tile, none⟩] }]
  tiles := #[⟨"T0", 0, #[], #[none, none]⟩, ⟨"T1", 0, #[], #[some 0, none]⟩,
    ⟨"T2", 0, #[], #[some 0, none]⟩, ⟨"T3", 0, #[], #[none, none]⟩]
  nodes := #[⟨0, #[⟨1, 0⟩, ⟨2, 0⟩]⟩]
  timing := none

/-- A device with a sink that was found far to the left of it. -/
def withFarSink (d : Device) : Context :=
  (Context.setSinkLocation { device := d } (.tile 0 1) (-2147483648, 0)).2

theorem cornerRecord_opens : ∃ db d, ChipDatabase.ofRecord cornerRecord ⟨[]⟩ = .ok db ∧
    Device.ofDatabase db = .ok (.ok d) ∧ d.record = cornerRecord ∧
    d.memberInfo ⟨1, 0⟩ = .ok ⟨Known.count + 1, 0, none, #[], #[0], #[]⟩ ∧
    d.memberInfo ⟨2, 0⟩ = .ok ⟨Known.count + 1, 0, none, #[], #[0], #[]⟩ ∧
    d.tileXY 1 = .ok (1, 0) ∧ d.tileXY 2 = .ok (0, 1) ∧
    Context.wireAnchor { device := d } (.tile 0 1) = .ok (0, 0) ∧
    Context.routeBox { device := d } (.node 0) (.tile 0 1) = .ok ⟨0, 0, 0, 0⟩ ∧
    d.memberInfo ⟨0, 1⟩ = .ok ⟨Known.count + 2, 0, none, #[0], #[], #[]⟩ ∧
    (withFarSink d).sinkLocation (.node 0) = none ∧
    (withFarSink d).wireAnchor (.tile 0 1) = .ok (-2147483648, 0) ∧
    (withFarSink d).routeBox (.node 0) (.tile 0 1) = .error .overflow := by
  have accepted : ChipDatabase.ofRecord cornerRecord ⟨[]⟩ = .ok ⟨cornerRecord, ⟨[]⟩, rfl⟩ := rfl
  have opens : (do
      let opened ← Device.ofDatabase ⟨cornerRecord, ⟨[]⟩, rfl⟩
      return opened.toOption.map fun d => decide (
        d.memberInfo ⟨1, 0⟩ = .ok ⟨Known.count + 1, 0, none, #[], #[0], #[]⟩ ∧
        d.memberInfo ⟨2, 0⟩ = .ok ⟨Known.count + 1, 0, none, #[], #[0], #[]⟩ ∧
        d.tileXY 1 = .ok (1, 0) ∧ d.tileXY 2 = .ok (0, 1) ∧
        Context.wireAnchor { device := d } (.tile 0 1) = .ok (0, 0) ∧
        Context.routeBox { device := d } (.node 0) (.tile 0 1) = .ok ⟨0, 0, 0, 0⟩ ∧
        d.memberInfo ⟨0, 1⟩ = .ok ⟨Known.count + 2, 0, none, #[0], #[], #[]⟩ ∧
        (withFarSink d).sinkLocation (.node 0) = none ∧
        (withFarSink d).wireAnchor (.tile 0 1) = .ok (-2147483648, 0) ∧
        (withFarSink d).routeBox (.node 0) (.tile 0 1) = .error .overflow)) =
      Except.ok (some true) := by decide +kernel
  obtain ⟨d, opened, hcheck⟩ := Device.exists_of_check opens
  exact ⟨_, d, accepted, opened, record_of_ofDatabase accepted opened, of_decide_eq_true hcheck⟩

theorem cornerRecord_eligible {d : Device} (hrecord : d.record = cornerRecord)
    (h1 : d.memberInfo ⟨1, 0⟩ = .ok ⟨Known.count + 1, 0, none, #[], #[0], #[]⟩)
    (h2 : d.memberInfo ⟨2, 0⟩ = .ok ⟨Known.count + 1, 0, none, #[], #[0], #[]⟩)
    (hxy1 : d.tileXY 1 = .ok (1, 0)) (hxy2 : d.tileXY 2 = .ok (0, 1)) {i : Nat} {p : Int × Int} :
    d.Eligible 0 i p ↔ i = 0 ∧ p = (1, 0) ∨ i = 1 ∧ p = (0, 1) := by
  have hnode : d.record.nodes[0]? = some ⟨0, #[⟨1, 0⟩, ⟨2, 0⟩]⟩ := by rw [hrecord]; rfl
  constructor
  · intro h
    obtain ⟨node, m, info, hnode', -, hm, -, -, hp⟩ := h
    obtain rfl := Option.some.inj (hnode.symm.trans hnode')
    match i with
    | 0 =>
      obtain rfl : ⟨1, 0⟩ = m := Option.some.inj hm
      exact .inl ⟨rfl, Except.ok.inj (hp.symm.trans hxy1)⟩
    | 1 =>
      obtain rfl : ⟨2, 0⟩ = m := Option.some.inj hm
      exact .inr ⟨rfl, Except.ok.inj (hp.symm.trans hxy2)⟩
    | i + 2 => simp at hm
  · intro h
    rcases h with ⟨rfl, rfl⟩ | ⟨rfl, rfl⟩
    · exact ⟨_, _, _, hnode, by decide, rfl, h1, .inl (by simp), hxy1⟩
    · exact ⟨_, _, _, hnode, by decide, rfl, h2, .inl (by simp), hxy2⟩

/-- Seen from the first corner the node is there, where it has no member. -/
theorem node_starts_nearest_corner : ∃ db d, ChipDatabase.ofRecord cornerRecord ⟨[]⟩ = .ok db ∧
    Device.ofDatabase db = .ok (.ok d) ∧ d.Eligible 0 0 (1, 0) ∧ d.Eligible 0 1 (0, 1) ∧
    d.Measurable 0 (0, 0) ∧ d.NearestAre 0 (0, 0) 0 0 ∧
    Context.routeBox { device := d } (.node 0) (.tile 0 1) = .ok ⟨0, 0, 0, 0⟩ := by
  obtain ⟨db, d, accepted, opened, hrecord, h1, h2, hxy1, hxy2, hgoal, hbox, -⟩ := cornerRecord_opens
  have heligible {i : Nat} {p : Int × Int} := cornerRecord_eligible (i := i) (p := p) hrecord h1 h2 hxy1 hxy2
  have hnode : d.record.nodes[0]? = some ⟨0, #[⟨1, 0⟩, ⟨2, 0⟩]⟩ := by rw [hrecord]; rfl
  have hfirst : d.Eligible 0 0 (1, 0) := heligible.2 (by decide)
  have hmeasurable : d.Measurable 0 (0, 0) := by
    refine .inr fun i p hp => ?_
    rcases heligible.1 hp with ⟨-, rfl⟩ | ⟨-, rfl⟩ <;> decide
  have hsink : Context.sinkLocation { device := d } (.node 0) = none := by simp [sinkLocation]
  have hpower : Estimate.isPower 0 = false := by decide
  obtain ⟨p, box, -, hbox', -, nearest⟩ := (node_starts_nearest (c := { device := d }) hnode hpower hsink
    hgoal).1 ⟨0, (1, 0), hfirst⟩ hmeasurable
  obtain rfl := Except.ok.inj (hbox.symm.trans hbox')
  exact ⟨db, d, accepted, opened, hfirst, heligible.2 (by decide), hmeasurable, nearest, hbox⟩

/-- From a sink far to the left the distances of the two corners cannot be compared, and there is no box. -/
theorem box_not_found_far_off : ∃ db d, ChipDatabase.ofRecord cornerRecord ⟨[]⟩ = .ok db ∧
    Device.ofDatabase db = .ok (.ok d) ∧
    d.record.nodes[0]? = some ⟨0, #[⟨1, 0⟩, ⟨2, 0⟩]⟩ ∧ Estimate.isPower 0 = false ∧
    d.Eligible 0 0 (1, 0) ∧ d.Eligible 0 1 (0, 1) ∧ d.HasWire (.tile 0 1) ∧
    (withFarSink d).sinkLocation (.node 0) = none ∧
    (withFarSink d).wireAnchor (.tile 0 1) = .ok (-2147483648, 0) ∧
    (withFarSink d).routeBox (.node 0) (.tile 0 1) = .error .overflow := by
  obtain ⟨db, d, accepted, opened, hrecord, h1, h2, hxy1, hxy2, -, -, hsink, hfar⟩ := cornerRecord_opens
  have heligible {i : Nat} {p : Int × Int} := cornerRecord_eligible (i := i) (p := p) hrecord h1 h2 hxy1 hxy2
  have hnode : d.record.nodes[0]? = some ⟨0, #[⟨1, 0⟩, ⟨2, 0⟩]⟩ := by rw [hrecord]; rfl
  have hwire : d.HasWire (.tile 0 1) := by
    obtain ⟨tt, htype, hwires⟩ := bind_eq_ok_iff.1 hsink
    exact ⟨tt, htype, lt_size_of_fetch hwires⟩
  exact ⟨db, d, accepted, opened, hnode, by decide, heligible.2 (by decide), heligible.2 (by decide), hwire,
    hfar⟩

end Interconnect
