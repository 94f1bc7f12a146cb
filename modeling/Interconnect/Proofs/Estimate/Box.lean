import Interconnect.Proofs.Device.ClockRow
import Interconnect.Proofs.Estimate.Nearest
import Interconnect.Proofs.SinkLocation.OnTiles
/-!
# Boxes on the grid

The coordinates of tiles are points of the grid, and so are sink locations that were discovered and places
of nodes. Only what a site says about where it meets the interconnect is never compared with the grid. A
box lies on the grid exactly if neither of its ends has its place from a site that is wrong about it.
-/
namespace Interconnect

namespace Device

variable {d : Device} {p q : Int × Int} {t : Nat}

structure FitsSides (d : Device) : Prop where
  width : d.record.width < 2147483648
  height : d.record.height < 2147483648

theorem FitsSides.width_eq (hd : d.FitsSides) : d.width = d.record.width := signed_of_lt hd.width

theorem FitsSides.height_eq (hd : d.FitsSides) : d.height = d.record.height := signed_of_lt hd.height

structure OnGrid (d : Device) (p : Int × Int) : Prop where
  left : 0 ≤ p.1
  right : p.1 < d.width
  bottom : 0 ≤ p.2
  top : p.2 < d.height

/-- A rectangle of the grid. -/
structure Encloses (d : Device) (r : Rect) : Prop where
  left : 0 ≤ r.x0
  columns : r.x0 ≤ r.x1
  right : r.x1 < d.width
  bottom : 0 ≤ r.y0
  rows : r.y0 ≤ r.y1
  top : r.y1 < d.height

/-- Only a grid whose sides are signed words has a rectangle: sides beyond count as negative. -/
theorem Encloses.fitsSides {r : Rect} (h : d.Encloses r) (hwidth : d.record.width < 4294967296)
    (hheight : d.record.height < 4294967296) : d.FitsSides := by
  obtain ⟨left, columns, right, bottom, rows, top⟩ := h
  constructor
  · by_contra hwide
    rw [width, signed_of_ge (Nat.not_lt.1 hwide) hwidth] at right
    omega
  · by_contra hhigh
    rw [height, signed_of_ge (Nat.not_lt.1 hhigh) hheight] at top
    omega

theorem encloses_spanning_iff : d.Encloses (Rect.spanning p q) ↔ d.OnGrid p ∧ d.OnGrid q := by
  constructor
  · intro h
    obtain ⟨left, -, right, bottom, -, top⟩ := h
    simp only [Rect.spanning] at left right bottom top
    constructor <;> constructor <;> omega
  · intro h
    obtain ⟨⟨left, right, bottom, top⟩, left', right', bottom', top'⟩ := h
    constructor <;> simp only [Rect.spanning] <;> omega

theorem onGrid_of_tileXY (hd : d.FitsSides) (ht : d.HasTile t) (h : d.tileXY t = .ok p) : d.OnGrid p := by
  have column := Nat.mod_lt t (Nat.pos_of_ne_zero ht.width_ne_zero)
  have row := ht.row_lt
  rw [tileXY, if_neg ht.width_ne_zero, signed_of_lt (Nat.lt_trans column hd.width),
    signed_of_lt (Nat.lt_trans row hd.height)] at h
  obtain rfl := Except.ok.inj h
  constructor
  · exact Int.natCast_nonneg _
  · rw [hd.width_eq]
    exact Int.ofNat_lt.2 column
  · exact Int.natCast_nonneg _
  · rw [hd.height_eq]
    exact Int.ofNat_lt.2 row

end Device

namespace Context

open Estimate

variable {c : Context} {src dst w : WireId} {goal p : Int × Int} {box : Rect}

theorem closed_onGrid (hd : c.device.FitsSides) (hs : c.SinksOnTiles) : c.Closed c.device.OnGrid where
  sink h := by
    obtain ⟨t, ht, hxy⟩ := hs _ _ h
    exact Device.onGrid_of_tileXY hd ht hxy
  tile ht h := Device.onGrid_of_tileXY hd ht h
  crossing hp hq := ⟨hp.left, hp.right, hq.bottom, hq.top⟩
  middle hp := by
    have left := hp.left
    have right := hp.right
    have middle : c.device.width.tdiv 2 = c.device.width / 2 := Int.tdiv_eq_ediv_of_nonneg (by omega)
    refine ⟨?_, ?_, hp.bottom, hp.top⟩ <;> dsimp only <;> omega

theorem comparable_of_onGrid (hd : c.device.FitsSides) (hgoal : c.device.OnGrid goal)
    {places : List (Int × Int)} (hplaces : ∀ p ∈ places, c.device.OnGrid p) :
    comparable goal places = true := by
  have width := hd.width_eq
  have height := hd.height_eq
  have hwidth := hd.width
  have hheight := hd.height
  obtain ⟨left, right, bottom, top⟩ := hgoal
  refine comparable_eq_true_iff.2 (.inr fun p hp => ?_)
  obtain ⟨left', right', bottom', top'⟩ := hplaces p hp
  simp only [FitsWord]
  omega

/-- The wire has its place from a site, its own or the first one of its tile, and the site says that it meets
the interconnect outside the grid. -/
def Astray (c : Context) : WireId → Prop
  | .node _ => False
  | .tile t i => c.sinkLocation (.tile t i) = none ∧ ∃ site p,
      c.device.wireSite (.tile t i) = .ok site ∧
      c.device.siteInterXY ⟨t, site.getD 0⟩ = .ok (some p) ∧ ¬ c.device.OnGrid p

theorem astray_tile_iff {t i : Nat} {site : Option Nat} {found : Option (Int × Int)}
    (hsink : c.sinkLocation (.tile t i) = none) (hsite : c.device.wireSite (.tile t i) = .ok site)
    (hfound : c.device.siteInterXY ⟨t, site.getD 0⟩ = .ok found) :
    c.Astray (.tile t i) ↔ ∃ p, found = some p ∧ ¬ c.device.OnGrid p := by
  constructor
  · rintro ⟨-, site', p, hsite', hp, hout⟩
    obtain rfl := Except.ok.inj (hsite.symm.trans hsite')
    exact ⟨p, Except.ok.inj (hfound.symm.trans hp), hout⟩
  · rintro ⟨p, rfl, hout⟩
    exact ⟨hsink, site, p, hsite, hfound, hout⟩

/-- Of the places of wires only those that come from sites can lie off the grid. -/
theorem onGrid_wireAnchor_iff (hgrid : c.Closed c.device.OnGrid) (hw : c.device.HasWire w)
    (h : c.wireAnchor w = .ok p) : c.device.OnGrid p ↔ ¬ c.Astray w := by
  cases hsink : c.sinkLocation w with
  | some xy =>
    rw [wireAnchor, hsink] at h
    obtain rfl := Except.ok.inj h
    refine iff_of_true (hgrid.sink hsink) fun hastray => ?_
    cases w with
    | node n => exact hastray
    | tile t i =>
      rw [hastray.1] at hsink
      cases hsink
  | none =>
    cases w with
    | node n =>
      rw [wireAnchor, hsink] at h
      obtain ⟨t, ht, h⟩ := bind_eq_ok_iff.1 h
      exact iff_of_true (hgrid.tile ((Device.answers_wireTile hw).of_eq_ok ht) h) id
    | tile t i =>
      obtain ⟨site, found, hsite, hfound, hanchor⟩ := wireAnchor_tile hw hsink
      rw [hanchor] at h
      rw [astray_tile_iff hsink hsite hfound]
      cases found with
      | some xy =>
        obtain rfl := Except.ok.inj h
        simp
      | none => exact iff_of_true (hgrid.tile (Device.HasMember.hasTile hw) h) (by simp)

/-- The corner of a box at its source. What is everywhere counts as where its tile is. -/
def cornerAt (c : Context) (src : WireId) : Option (Int × Int) → Query (Int × Int)
  | some xy => .ok xy
  | none => do c.device.tileXY (← c.device.wireTile src)

theorem routeBox_eq_ok_iff : c.routeBox src dst = .ok box ↔ ∃ goal found p,
    c.wireAnchor dst = .ok goal ∧ c.sourceAnchor src goal = .ok found ∧ c.cornerAt src found = .ok p ∧
    box = Rect.spanning p goal := by
  constructor
  · intro h
    obtain ⟨goal, hgoal, h⟩ := bind_eq_ok_iff.1 h
    obtain ⟨found, hfound, h⟩ := bind_eq_ok_iff.1 h
    cases found with
    | some xy => exact ⟨goal, some xy, xy, hgoal, hfound, rfl, (Except.ok.inj h).symm⟩
    | none =>
      obtain ⟨t, ht, h⟩ := bind_eq_ok_iff.1 h
      obtain ⟨p, hp, h⟩ := bind_eq_ok_iff.1 h
      exact ⟨goal, none, p, hgoal, hfound, bind_eq_ok_iff.2 ⟨t, ht, hp⟩, (Except.ok.inj h).symm⟩
  · intro h
    obtain ⟨goal, found, p, hgoal, hfound, hp, rfl⟩ := h
    refine bind_eq_ok_iff.2 ⟨goal, hgoal, bind_eq_ok_iff.2 ⟨found, hfound, ?_⟩⟩
    cases found with
    | some xy =>
      obtain rfl := Except.ok.inj hp
      rfl
    | none =>
      obtain ⟨t, ht, hp⟩ := bind_eq_ok_iff.1 hp
      exact bind_eq_ok_iff.2 ⟨t, ht, bind_eq_ok_iff.2 ⟨p, hp, rfl⟩⟩

theorem answers_sourceAnchor_onGrid (hd : c.device.FitsSides) (hgrid : c.Closed c.device.OnGrid)
    (hw : c.device.HasWire src) (hstray : ¬ c.Astray src) (hgoal : c.device.OnGrid goal) :
    Answers (c.sourceAnchor src goal) (∀ p ∈ ·, c.device.OnGrid p) := by
  cases src with
  | tile t i =>
    obtain ⟨p, hp, -⟩ := answers_wireAnchor hw
    have hon : c.device.OnGrid p := (onGrid_wireAnchor_iff hgrid hw hp).2 hstray
    exact ⟨some p, by rw [sourceAnchor, hp]; rfl, by simpa using hon⟩
  | node n =>
    have hanchor : AnswersUnless False (c.sourceAnchor (.node n) goal) (∀ p ∈ ·, c.device.OnGrid p) :=
      hgrid.answersUnless_nodeAnchor hw fun _ _ hplaces => comparable_of_onGrid hd hgoal hplaces
    exact hanchor.resolve_right And.left

theorem not_astray_of_sourceAnchor (hgrid : c.Closed c.device.OnGrid) (hw : c.device.HasWire src)
    (h : c.sourceAnchor src goal = .ok (some p)) (hp : c.device.OnGrid p) : ¬ c.Astray src := by
  cases src with
  | tile t i =>
    obtain ⟨q, hq, -⟩ := answers_wireAnchor hw
    rw [sourceAnchor, hq] at h
    obtain rfl := Option.some.inj (Except.ok.inj h)
    exact (onGrid_wireAnchor_iff hgrid hw hq).1 hp
  | node n => exact id

end Context

open Context

variable {d : Device} {c : Context} {src dst : WireId}

/-- Where no sink location was recorded by hand there is a box between two wires, and it is a rectangle of the
grid, exactly if the sides of the grid are signed words and no site that places one of the wires is wrong
about where it meets the interconnect. -/
theorem boxes_stay_on_grid_iff (h : Run (fun _ a => a.LeavesSinks) { device := d } c)
    (hwidth : c.device.record.width < 4294967296) (hheight : c.device.record.height < 4294967296)
    (hsrc : c.device.HasWire src) (hdst : c.device.HasWire dst) :
    (∃ box, c.routeBox src dst = .ok box ∧ c.device.Encloses box) ↔
      c.device.FitsSides ∧ ¬ c.Astray src ∧ ¬ c.Astray dst := by
  constructor
  · rintro ⟨box, hbox, hinside⟩
    have hd : c.device.FitsSides := hinside.fitsSides hwidth hheight
    have hgrid : c.Closed c.device.OnGrid := closed_onGrid hd h.sinksOnTiles_of_new
    obtain ⟨goal, found, p, hgoal, hfound, hp, rfl⟩ := routeBox_eq_ok_iff.1 hbox
    obtain ⟨hon, hgoalOn⟩ := Device.encloses_spanning_iff.1 hinside
    refine ⟨hd, ?_, (onGrid_wireAnchor_iff hgrid hdst hgoal).1 hgoalOn⟩
    cases found with
    | some xy =>
      obtain rfl := Except.ok.inj hp
      exact not_astray_of_sourceAnchor hgrid hsrc hfound hon
    | none =>
      -- only a node is everywhere
      cases src with
      | node n => exact id
      | tile t i =>
        obtain ⟨q, hq, -⟩ := answers_wireAnchor hsrc
        rw [sourceAnchor, hq] at hfound
        cases hfound
  · rintro ⟨hd, hsrcStray, hdstStray⟩
    have hgrid : c.Closed c.device.OnGrid := closed_onGrid hd h.sinksOnTiles_of_new
    obtain ⟨goal, hgoal, -⟩ := answers_wireAnchor hdst
    have hgoalOn : c.device.OnGrid goal := (onGrid_wireAnchor_iff hgrid hdst hgoal).2 hdstStray
    obtain ⟨found, hfound, hfoundOn⟩ := answers_sourceAnchor_onGrid hd hgrid hsrc hsrcStray hgoalOn
    have hcorner : Answers (c.cornerAt src found) c.device.OnGrid := by
      cases found with
      | some xy => exact answers_ok (hfoundOn xy rfl)
      | none => exact (Device.answers_wireTile hsrc).bind fun t ht => hgrid.answers_tileXY ht
    obtain ⟨p, hp, hon⟩ := hcorner
    exact ⟨_, routeBox_eq_ok_iff.2 ⟨goal, found, p, hgoal, hfound, hp, rfl⟩,
      Device.encloses_spanning_iff.2 ⟨hon, hgoalOn⟩⟩

/-! A tile with a wire and a site, which meets the interconnect in some column of the first row. -/

def sitedRecord (column : Nat) : ChipRecord where
  name := "xcvu"
  generator := ""
  width := 1
  height := 1
  knownIdCount := Known.count
  extraIds := #["CLB", "A"]
  tileTypes := #[
    { typeName := Known.count
      wires := #[⟨Known.count + 1, Known.ident "NODE_SINGLE", none, #[], #[], #[]⟩] }]
  tiles := #[⟨"T", 0, #[⟨"S", "SLICEL", "", (0, 0), some (column, 0)⟩], #[none]⟩]
  nodes := #[]
  timing := none

theorem sitedRecord_hasWire {column : Nat} (h : d.record = sitedRecord column) : d.HasWire (.tile 0 0) := by
  refine ⟨_, ?_, (by decide : 0 < (sitedRecord 0).tileTypes[0].wires.size)⟩
  rw [Device.tileType, Device.tile, h]
  rfl

theorem boxes_stay_on_grid_sited : ∃ db d, ChipDatabase.ofRecord (sitedRecord 0) ⟨[]⟩ = .ok db ∧
    Device.ofDatabase db = .ok (.ok d) ∧ d.record.width = 1 ∧ d.record.height = 1 ∧
    d.HasWire (.tile 0 0) ∧ ¬ Context.Astray { device := d } (.tile 0 0) ∧
    ∃ box, Context.routeBox { device := d } (.tile 0 0) (.tile 0 0) = .ok box ∧ d.Encloses box := by
  have accepted : ChipDatabase.ofRecord (sitedRecord 0) ⟨[]⟩ = .ok ⟨sitedRecord 0, ⟨[]⟩, rfl⟩ := rfl
  obtain ⟨d, opened, hcheck⟩ := @Device.exists_of_check ⟨sitedRecord 0, ⟨[]⟩, rfl⟩
    (fun d => d.wireSite (.tile 0 0) = .ok none ∧ d.siteInterXY ⟨0, 0⟩ = .ok (some (0, 0)))
    (by decide +kernel)
  obtain ⟨hsite, hmeets⟩ := of_decide_eq_true hcheck
  have hrecord : d.record = sitedRecord 0 := Device.record_of_ofDatabase accepted opened
  have hwide : d.record.width = 1 := by rw [hrecord]; rfl
  have hhigh : d.record.height = 1 := by rw [hrecord]; rfl
  have hsides : d.FitsSides := ⟨by omega, by omega⟩
  have hstray : ¬ Context.Astray { device := d } (.tile 0 0) := by
    rw [astray_tile_iff (c := { device := d }) (by simp [sinkLocation]) hsite hmeets]
    rintro ⟨p, hp, hout⟩
    obtain rfl := Option.some.inj hp
    refine hout ⟨by decide, ?_, by decide, ?_⟩
    · rw [hsides.width_eq, hwide]
      decide
    · rw [hsides.height_eq, hhigh]
      decide
  have hwire := sitedRecord_hasWire hrecord
  exact ⟨_, d, accepted, opened, hwide, hhigh, hwire, hstray,
    (boxes_stay_on_grid_iff .start (by dsimp only; omega) (by dsimp only; omega) hwire hwire).2
      ⟨hsides, hstray, hstray⟩⟩

/-- A site says that it meets the interconnect beyond the only tile, and so the box is beyond it too. -/
theorem box_off_grid : ∃ db d, ChipDatabase.ofRecord (sitedRecord 5) ⟨[]⟩ = .ok db ∧
    Device.ofDatabase db = .ok (.ok d) ∧ d.HasWire (.tile 0 0) ∧
    Run (fun _ a => a.LeavesSinks) { device := d } { device := d } ∧
    Context.routeBox { device := d } (.tile 0 0) (.tile 0 0) = .ok ⟨5, 0, 5, 0⟩ ∧
    ¬ d.Encloses ⟨5, 0, 5, 0⟩ := by
  have accepted : ChipDatabase.ofRecord (sitedRecord 5) ⟨[]⟩ = .ok ⟨sitedRecord 5, ⟨[]⟩, rfl⟩ := rfl
  obtain ⟨d, opened, hcheck⟩ := @Device.exists_of_check ⟨sitedRecord 5, ⟨[]⟩, rfl⟩
    (fun d => Context.routeBox { device := d } (.tile 0 0) (.tile 0 0) = .ok ⟨5, 0, 5, 0⟩)
    (by decide +kernel)
  have hrecord : d.record = sitedRecord 5 := Device.record_of_ofDatabase accepted opened
  refine ⟨_, d, accepted, opened, sitedRecord_hasWire hrecord, .start, of_decide_eq_true hcheck, fun h => ?_⟩
  have hright := h.right
  rw [Device.width, hrecord] at hright
  exact absurd hright (by decide)

end Interconnect
