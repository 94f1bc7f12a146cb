import Interconnect.Proofs.Device.Member
/-!
# Clock rows of pads

Tiles are numbered row by row, and the tile whose clock row serves a pad is the next or the previous one
in that order. This is the pad's neighbour in its row, except that the last tile of a row is followed by
the first of the row above, and the first preceded by the last of the row below. A pad on the wrong end of
its row is served by that tile.
-/
namespace Interconnect

/-- The sides of a device on which pads stand. -/
inductive PadSide where
  | left
  | right
  deriving DecidableEq, Repr

namespace PadSide

def head : PadSide → String
  | left => "LIOB"
  | right => "RIOB"

/-- The way from a pad to its I/O logic, in columns. -/
def step : PadSide → Int
  | left => 1
  | right => -1

/-- The tile that is numbered next to a pad's, on the side of its I/O logic. -/
def beside : PadSide → Nat → Option Nat
  | left, t => some (t + 1)
  | right, t => if t = 0 then none else some (t - 1)

theorem filter_beside_eq_some_iff {side : PadSide} {t t' size : Nat} :
    (side.beside t).filter (· < size) = some t' ↔ t' < size ∧ (t' : Int) = t + side.step := by
  rw [Option.filter_eq_some_iff, decide_eq_true_eq]
  cases side with
  | left =>
    simp only [beside, step, Option.some.injEq]
    omega
  | right =>
    simp only [beside, step]
    split
    · simp only [reduceCtorEq, false_and, false_iff]
      omega
    · simp only [Option.some.injEq]
      omega

end PadSide

namespace Device

variable {d : Device} {t t' : Nat} {x y : Int}

/-! ### Points of the grid -/

/-- The tile at a column and a row of the grid. -/
structure StandsAt (d : Device) (t : Nat) (x y : Int) : Prop where
  inside : d.HasTile t
  column : ((t % d.record.width : Nat) : Int) = x
  row : ((t / d.record.width : Nat) : Int) = y

theorem standsAt_iff : d.StandsAt t x y ↔
    d.HasTile t ∧ 0 ≤ x ∧ x < d.record.width ∧ (t : Int) = y * d.record.width + x := by
  constructor
  · intro h
    obtain ⟨inside, rfl, rfl⟩ := h
    have hlt := Nat.mod_lt t (Nat.pos_of_ne_zero inside.width_ne_zero)
    have hsum := Nat.div_add_mod' t d.record.width
    refine ⟨inside, by omega, by omega, ?_⟩
    rw [← Int.natCast_mul]
    omega
  · intro h
    obtain ⟨inside, hx, hlt, ht⟩ := h
    have hpos : (0 : Int) < d.record.width := by omega
    refine ⟨inside, ?_, ?_⟩
    · rw [Int.natCast_emod, ht, Int.add_comm, Int.add_mul_emod_self_right, Int.emod_eq_of_lt hx hlt]
    · rw [Int.natCast_ediv, ht, Int.add_comm, Int.add_mul_ediv_right _ _ (by omega),
        Int.ediv_eq_zero_of_lt hx hlt, Int.zero_add]

theorem HasTile.row_lt (h : d.HasTile t) : t / d.record.width < d.record.height := by
  apply Nat.div_lt_of_lt_mul
  rw [← d.valid.grid]
  exact h

theorem StandsAt.exists_column (h : d.StandsAt t x y) {x' : Int} (hx : 0 ≤ x')
    (hlt : x' < d.record.width) : ∃ t', d.StandsAt t' x' y := by
  obtain ⟨inside, -, rfl⟩ := h
  obtain ⟨k, rfl⟩ := Int.eq_ofNat_of_zero_le hx
  have hrows := Nat.mul_le_mul_right d.record.width inside.row_lt
  rw [Nat.succ_mul, Nat.mul_comm d.record.height, ← d.valid.grid] at hrows
  have hk : t / d.record.width * d.record.width + k < d.tileCount := by
    rw [tileCount]
    omega
  exact ⟨_, standsAt_iff.2 ⟨hk, hx, hlt, by simp⟩⟩

/-! ### The tile beside a pad -/

variable {side : PadSide} {pad : BelId} {typeName : String}

theorem startsWith_left_of_right (h : Text.startsWith PadSide.right.head typeName = true) :
    Text.startsWith PadSide.left.head typeName = false := by
  rw [Bool.eq_false_iff]
  intro hleft
  simp only [Text.startsWith, List.isPrefixOf_iff_prefix] at h hleft
  have heq := List.prefix_of_prefix_length_le hleft h (by decide)
  exact absurd heq (by decide)

theorem hclkForIob_eq (hname : d.belTileType pad >>= d.nameOf = .ok typeName)
    (hside : Text.startsWith side.head typeName = true) : d.hclkForIob pad =
      match (side.beside pad.tile).filter (· < d.tileCount) with
      | some ioi => d.hclkForIoi ioi
      | none => do return .error (.noNeighbour (← d.tileName pad.tile)) := by
  obtain ⟨ty, hty, hname⟩ := bind_eq_ok_iff.1 hname
  simp only [hclkForIob, hty, hname, bind, Except.bind]
  cases side with
  | left =>
    have hleft : Text.startsWith "LIOB" typeName = true := hside
    rw [if_pos hleft]
    rfl
  | right =>
    have hleft : Text.startsWith "LIOB" typeName = false := startsWith_left_of_right hside
    have hright : Text.startsWith "RIOB" typeName = true := hside
    rw [hleft, if_neg Bool.false_ne_true, if_pos hright]
    rfl

/-- A pad is served by the row of the tile that is numbered next to its own. -/
theorem hclkForIob_of_beside (hname : d.belTileType pad >>= d.nameOf = .ok typeName)
    (hside : Text.startsWith side.head typeName = true) {ioi : Nat} (hioi : d.HasTile ioi)
    (hnext : (ioi : Int) = pad.tile + side.step) : d.hclkForIob pad = d.hclkForIoi ioi := by
  rw [hclkForIob_eq hname hside, PadSide.filter_beside_eq_some_iff.2 ⟨hioi, hnext⟩]

theorem hclkForIob_of_no_tile (hname : d.belTileType pad >>= d.nameOf = .ok typeName)
    (hside : Text.startsWith side.head typeName = true) (hpad : d.HasTile pad.tile)
    (hnone : ∀ ioi, d.HasTile ioi → (ioi : Int) ≠ pad.tile + side.step) :
    ∃ tile, d.tileName pad.tile = .ok tile ∧
      d.hclkForIob pad = .ok (.error (.noNeighbour tile)) := by
  obtain ⟨tile, htile, -⟩ := answers_tileName hpad
  refine ⟨tile, htile, ?_⟩
  rw [hclkForIob_eq hname hside]
  cases hbeside : (side.beside pad.tile).filter (· < d.tileCount) with
  | none =>
    rw [htile]
    rfl
  | some ioi =>
    obtain ⟨hioi, hnext⟩ := PadSide.filter_beside_eq_some_iff.1 hbeside
    exact absurd hnext (hnone ioi hioi)

/-- The tile that is numbered next to a tile at the end of its row stands at the other end of the next
row. -/
theorem StandsAt.turn (h : d.StandsAt t x y) {t' : Nat} (ht' : d.HasTile t')
    (hend : ∀ t', ¬ d.StandsAt t' (x + side.step) y) : (t' : Int) = t + side.step ↔
      d.StandsAt t' (x + side.step - side.step * d.record.width) (y + side.step) := by
  obtain ⟨-, hx, hlt, ht⟩ := standsAt_iff.1 h
  have houtside : ¬ (0 ≤ x + side.step ∧ x + side.step < d.record.width) := by
    intro hinside
    obtain ⟨t'', ht''⟩ := h.exists_column hinside.1 hinside.2
    exact hend t'' ht''
  rw [standsAt_iff, and_iff_right ht', Int.add_mul]
  cases side with
  | left =>
    simp only [PadSide.step] at houtside ⊢
    omega
  | right =>
    simp only [PadSide.step] at houtside ⊢
    omega

end Device

variable {d : Device} {side : PadSide} {pad : BelId} {typeName : String} {x y : Int}

/-- A pad is served by the clock row of its neighbour, if it has one. If not, it is served by that of the
tile at the other end of the next row, and by none exactly if there is no such tile or the tile has none. -/
theorem clock_row_of_neighbour (hname : d.belTileType pad >>= d.nameOf = .ok typeName)
    (hside : Text.startsWith side.head typeName = true) (hat : d.StandsAt pad.tile x y) :
    (∀ ioi, d.StandsAt ioi (x + side.step) y → d.hclkForIob pad = d.hclkForIoi ioi) ∧
    ((∀ ioi, ¬ d.StandsAt ioi (x + side.step) y) →
      ((∃ e, d.hclkForIob pad = .ok (.error e)) ↔
        ∀ ioi, d.StandsAt ioi (x + side.step - side.step * d.record.width) (y + side.step) →
          ∃ e, d.hclkForIoi ioi = .ok (.error e))) := by
  obtain ⟨inside, -, -, hpad⟩ := Device.standsAt_iff.1 hat
  constructor
  · intro ioi hioi
    obtain ⟨hin, -, -, hplace⟩ := Device.standsAt_iff.1 hioi
    exact Device.hclkForIob_of_beside hname hside hin (by omega)
  · intro hend
    constructor
    · intro herror ioi hioi
      have hnext := (hat.turn hioi.inside hend).2 hioi
      rwa [Device.hclkForIob_of_beside hname hside hioi.inside hnext] at herror
    · intro hfar
      by_cases hexists : ∃ ioi : Nat, d.HasTile ioi ∧ (ioi : Int) = pad.tile + side.step
      · obtain ⟨ioi, hin, hnext⟩ := hexists
        rw [Device.hclkForIob_of_beside hname hside hin hnext]
        exact hfar ioi ((hat.turn hin hend).1 hnext)
      · obtain ⟨tile, -, hnone⟩ := Device.hclkForIob_of_no_tile hname hside inside
          fun ioi hin hnext => hexists ⟨ioi, hin, hnext⟩
        exact ⟨_, hnone⟩

/-! Two rows of three tiles. The first has a left pad at each end and I/O logic between them, and the
second begins with I/O logic. -/

def padRowRecord : ChipRecord where
  name := "xc7a"
  generator := ""
  width := 3
  height := 2
  knownIdCount := Known.count
  extraIds := #["LIOB33", "LIOI3"]
  tileTypes := #[
    { typeName := Known.count, bels := #[⟨Known.ident "PAD", Known.ident "PAD", 0, none, false, #[], none⟩] },
    { typeName := Known.count + 1
      wires := #[⟨Known.ident "IOI_IOCLK0", 0, none, #[0], #[], #[]⟩, ⟨0, 0, none, #[], #[0], #[]⟩]
      pips := #[⟨1, 0, none, none, .tile, none⟩] }]
  tiles := #[⟨"T0", 0, #[], #[]⟩, ⟨"T1", 1, #[], #[none, none]⟩, ⟨"T2", 0, #[], #[]⟩,
    ⟨"T3", 1, #[], #[none, none]⟩, ⟨"T4", 1, #[], #[none, none]⟩, ⟨"T5", 1, #[], #[none, none]⟩]
  nodes := #[]
  timing := none

theorem padRowRecord_opens : ∃ db d, ChipDatabase.ofRecord padRowRecord ⟨[]⟩ = .ok db ∧
    Device.ofDatabase db = .ok (.ok d) ∧ d.record = padRowRecord ∧
    d.belTileType ⟨0, 0⟩ >>= d.nameOf = .ok "LIOB33" ∧ d.hclkForIoi 1 = .ok (.ok 1) ∧
    d.bel ⟨2, 0⟩ = .ok ⟨Known.ident "PAD", Known.ident "PAD", 0, none, false, #[], none⟩ ∧
    d.belTileType ⟨2, 0⟩ >>= d.nameOf = .ok "LIOB33" ∧ d.hclkForIob ⟨2, 0⟩ = .ok (.ok 3) := by
  have accepted : ChipDatabase.ofRecord padRowRecord ⟨[]⟩ = .ok ⟨padRowRecord, ⟨[]⟩, rfl⟩ := rfl
  have opens : (do
      let opened ← Device.ofDatabase ⟨padRowRecord, ⟨[]⟩, rfl⟩
      return opened.toOption.map fun d => decide (
        d.belTileType ⟨0, 0⟩ >>= d.nameOf = .ok "LIOB33" ∧ d.hclkForIoi 1 = .ok (.ok 1) ∧
        d.bel ⟨2, 0⟩ = .ok ⟨Known.ident "PAD", Known.ident "PAD", 0, none, false, #[], none⟩ ∧
        d.belTileType ⟨2, 0⟩ >>= d.nameOf = .ok "LIOB33" ∧ d.hclkForIob ⟨2, 0⟩ = .ok (.ok 3))) =
      Except.ok (some true) := by decide +kernel
  obtain ⟨d, opened, hcheck⟩ := Device.exists_of_check opens
  exact ⟨_, d, accepted, opened, Device.record_of_ofDatabase accepted opened, of_decide_eq_true hcheck⟩

theorem padRowRecord_standsAt (h : d.record = padRowRecord) {t : Nat} :
    d.StandsAt t x y ↔ t < 6 ∧ ((t % 3 : Nat) : Int) = x ∧ ((t / 3 : Nat) : Int) = y := by
  constructor
  · intro hat
    obtain ⟨inside, hx, hy⟩ := hat
    rw [h] at hx hy
    rw [Device.HasTile, Device.tileCount, h] at inside
    exact ⟨inside, hx, hy⟩
  · intro hat
    obtain ⟨inside, hx, hy⟩ := hat
    refine ⟨?_, ?_, ?_⟩
    · rwa [Device.HasTile, Device.tileCount, h]
    · rwa [h]
    · rwa [h]

theorem clock_row_of_neighbour_row : ∃ db d, ChipDatabase.ofRecord padRowRecord ⟨[]⟩ = .ok db ∧
    Device.ofDatabase db = .ok (.ok d) ∧ d.belTileType ⟨0, 0⟩ >>= d.nameOf = .ok "LIOB33" ∧
    Text.startsWith PadSide.left.head "LIOB33" = true ∧ d.StandsAt 0 0 0 ∧ d.StandsAt 1 1 0 ∧
    d.hclkForIob ⟨0, 0⟩ = .ok (.ok 1) := by
  obtain ⟨db, d, accepted, opened, record, hname, hrow, -⟩ := padRowRecord_opens
  have hside : Text.startsWith PadSide.left.head "LIOB33" = true := by decide
  have hat : d.StandsAt 0 0 0 := (padRowRecord_standsAt record).2 (by decide)
  have hbeside : d.StandsAt 1 1 0 := (padRowRecord_standsAt record).2 (by decide)
  have hsame := (clock_row_of_neighbour hname hside hat).1 1 hbeside
  exact ⟨db, d, accepted, opened, hname, hside, hat, hbeside, hsame.trans hrow⟩

/-- A left pad at the right end of its row has no neighbour, and is served by the row of the first tile
above it. -/
theorem pad_served_across_rows : ∃ db d, ChipDatabase.ofRecord padRowRecord ⟨[]⟩ = .ok db ∧
    Device.ofDatabase db = .ok (.ok d) ∧ d.HasBel ⟨2, 0⟩ ∧
    d.belTileType ⟨2, 0⟩ >>= d.nameOf = .ok "LIOB33" ∧
    Text.startsWith PadSide.left.head "LIOB33" = true ∧ d.StandsAt 2 2 0 ∧
    (∀ ioi, ¬ d.StandsAt ioi (2 + PadSide.left.step) 0) ∧ d.hclkForIob ⟨2, 0⟩ = .ok (.ok 3) := by
  obtain ⟨db, d, accepted, opened, record, -, -, hbel, hname, hrow⟩ := padRowRecord_opens
  have hat : d.StandsAt 2 2 0 := (padRowRecord_standsAt record).2 (by decide)
  refine ⟨db, d, accepted, opened, Device.hasBel_of_bel hbel, hname, by decide, hat, ?_, hrow⟩
  intro ioi hioi
  obtain ⟨-, hx, -⟩ := (padRowRecord_standsAt record).1 hioi
  simp only [PadSide.step] at hx
  omega

end Interconnect
