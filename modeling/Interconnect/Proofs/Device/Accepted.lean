import Interconnect.Chip.Database
import Mathlib.Data.List.Basic
import Mathlib.Tactic.Common
/-!
# What acceptance says about a record

A record is accepted exactly when each index in it is below the size of the table that it points
into. The checks walk the tables in loops; here the same is said entry by entry.
-/
namespace Interconnect

/-! ## The loops of the check -/

namespace Check

theorem require_eq_ok_iff {holds : Bool} {otherwise : Malformation} :
    require holds otherwise = .ok () ↔ holds = true := by
  cases holds <;> simp [require]

theorem none_eq_ok_iff {α : Type} {list : List α} {bad : α → Bool} {otherwise : α → Malformation} :
    none list bad otherwise = .ok () ↔ ∀ a ∈ list, bad a = false := by
  unfold none
  split
  case h_1 a found =>
    have member : a ∈ list := List.mem_of_find?_eq_some found
    have isBad : bad a = true := List.find?_some found
    constructor
    · intro h
      cases h
    · intro h
      rw [h a member] at isBad
      cases isBad
  case h_2 absent =>
    simpa using absent

theorem seq_eq_ok_iff {x y : Result} : (do x; y) = .ok () ↔ x = .ok () ∧ y = .ok () := by
  rw [bind_eq_ok_iff]
  constructor
  · rintro ⟨⟨⟩, hx, hy⟩
    exact ⟨hx, hy⟩
  · rintro ⟨hx, hy⟩
    exact ⟨(), hx, hy⟩

theorem forM_eq_ok_iff {α : Type} {list : List α} {check : α → Result} :
    list.forM check = .ok () ↔ ∀ a ∈ list, check a = .ok () := by
  induction list with
  | nil => simp [pure, Except.pure]
  | cons a list ih =>
    change (do check a; list.forM check) = .ok () ↔ _
    rw [seq_eq_ok_iff, ih, List.forall_mem_cons]

theorem each_eq_ok_iff {α : Type} {table : Array α} {check : Nat → α → Result} {P : α → Prop}
    (h : ∀ i a, check i a = .ok () ↔ P a) : each table check = .ok () ↔ ∀ a ∈ table, P a := by
  rw [each, forM_eq_ok_iff]
  constructor
  · intro all a ha
    obtain ⟨i, hi, rfl⟩ := Array.mem_iff_getElem.1 ha
    exact (h i _).1 (all (table[i], i) (by simp [List.mem_zipIdx_iff_getElem?, hi]))
  · rintro all ⟨a, i⟩ ha
    have member : a ∈ table := by simpa using List.fst_mem_of_mem_zipIdx ha
    exact (h i a).2 (all a member)

end Check

/-! ## Entries whose references are in range -/

/-- The bel's names are identifiers, its pins are on wires of its tile type, and its timing instance
is in the tile type's timing table. -/
structure Bel.Valid (r : ChipRecord) (tt : TileType) (b : Bel) : Prop where
  name : b.name < r.idLimit
  belType : b.belType < r.idLimit
  pins : ∀ p ∈ b.pins, p.port < r.idLimit ∧ p.wire < tt.wires.size
  timingInst : ∀ i ∈ b.timingInst, i < r.instanceCount tt

structure Wire.Valid (r : ChipRecord) (tt : TileType) (w : Wire) : Prop where
  name : w.name < r.idLimit
  intent : w.intent < r.idLimit
  uphill : ∀ p ∈ w.uphill, p < tt.pips.size
  downhill : ∀ p ∈ w.downhill, p < tt.pips.size
  belPins : ∀ p ∈ w.belPins, p.bel < tt.bels.size

structure Pip.Valid (r : ChipRecord) (tt : TileType) (p : Pip) : Prop where
  src : p.src < tt.wires.size
  dst : p.dst < tt.wires.size
  bel : ∀ b ∈ p.bel, b < r.idLimit

structure TileType.Valid (r : ChipRecord) (tt : TileType) : Prop where
  typeName : tt.typeName < r.idLimit
  timingIndex : ∀ i ∈ tt.timingIndex, i < r.timingTables.size
  bels : ∀ b ∈ tt.bels, b.Valid r tt
  wires : ∀ w ∈ tt.wires, w.Valid r tt
  pips : ∀ p ∈ tt.pips, p.Valid r tt

/-- The tile has what its type refers to: a place for each wire and every site. -/
structure Tile.Valid (r : ChipRecord) (tt : TileType) (tile : Tile) : Prop where
  wires : tile.wireToNode.size = tt.wires.size
  nodes : ∀ n, some n ∈ tile.wireToNode → n < r.nodes.size
  sites : ∀ s ∈ Check.sitesOf tt, s < tile.sites.size

structure Node.Valid (r : ChipRecord) (n : Node) : Prop where
  intent : n.intent < r.idLimit
  nonempty : 0 < n.tileWires.size
  members : ∀ w ∈ n.tileWires, ∃ tile tt, r.tiles[w.tile]? = some tile ∧
    r.tileTypes[tile.tileType]? = some tt ∧ w.index < tt.wires.size

structure ChipRecord.Valid (r : ChipRecord) : Prop where
  knownIdCount : r.knownIdCount = Known.count
  grid : r.tiles.size = r.width * r.height
  tileTypes : ∀ tt ∈ r.tileTypes, tt.Valid r
  tiles : ∀ tile ∈ r.tiles, ∃ tt, r.tileTypes[tile.tileType]? = some tt ∧ tile.Valid r tt
  nodes : ∀ n ∈ r.nodes, n.Valid r

namespace Check

variable {r : ChipRecord}

theorem ident_eq_ok_iff {user : String} {id : Ident} :
    ident r user id = .ok () ↔ id < r.idLimit := by
  simp [ident, require_eq_ok_iff]

theorem bel_eq_ok_iff {ti bi : Nat} {tt : TileType} {b : Bel} :
    bel r ti tt bi b = .ok () ↔ b.Valid r tt := by
  simp only [bel, seq_eq_ok_iff, ident_eq_ok_iff, forM_eq_ok_iff, require_eq_ok_iff,
    none_eq_ok_iff, decide_eq_true_eq, decide_eq_false_iff_not, Nat.not_le, Array.mem_toList_iff,
    Option.mem_toList]
  exact ⟨fun ⟨n, t, p, i⟩ => ⟨n, t, p, i⟩, fun ⟨n, t, p, i⟩ => ⟨n, t, p, i⟩⟩

theorem wire_eq_ok_iff {ti wi : Nat} {tt : TileType} {w : Wire} :
    wire r ti tt wi w = .ok () ↔ w.Valid r tt := by
  simp only [wire, seq_eq_ok_iff, ident_eq_ok_iff, none_eq_ok_iff, decide_eq_false_iff_not,
    Nat.not_le, Array.mem_toList_iff, List.mem_append, or_imp, forall_and]
  exact ⟨fun ⟨n, i, ⟨u, d⟩, b⟩ => ⟨n, i, u, d, b⟩, fun ⟨n, i, u, d, b⟩ => ⟨n, i, ⟨u, d⟩, b⟩⟩

theorem pip_eq_ok_iff {ti pi : Nat} {tt : TileType} {p : Pip} :
    pip r ti tt pi p = .ok () ↔ p.Valid r tt := by
  simp only [pip, seq_eq_ok_iff, ident_eq_ok_iff, forM_eq_ok_iff, require_eq_ok_iff,
    decide_eq_true_eq, Option.mem_toList]
  exact ⟨fun ⟨⟨s, d⟩, b⟩ => ⟨s, d, b⟩, fun ⟨s, d, b⟩ => ⟨⟨s, d⟩, b⟩⟩

theorem tileType_eq_ok_iff {ti : Nat} {tt : TileType} :
    tileType r ti tt = .ok () ↔ tt.Valid r := by
  have bels : each tt.bels (bel r ti tt) = .ok () ↔ ∀ b ∈ tt.bels, b.Valid r tt :=
    each_eq_ok_iff fun _ _ => bel_eq_ok_iff
  have wires : each tt.wires (wire r ti tt) = .ok () ↔ ∀ w ∈ tt.wires, w.Valid r tt :=
    each_eq_ok_iff fun _ _ => wire_eq_ok_iff
  have pips : each tt.pips (pip r ti tt) = .ok () ↔ ∀ p ∈ tt.pips, p.Valid r tt :=
    each_eq_ok_iff fun _ _ => pip_eq_ok_iff
  simp only [tileType, seq_eq_ok_iff, ident_eq_ok_iff, none_eq_ok_iff, decide_eq_false_iff_not,
    Nat.not_le, Option.mem_toList, bels, wires, pips]
  exact ⟨fun ⟨n, t, b, w, p⟩ => ⟨n, t, b, w, p⟩, fun ⟨n, t, b, w, p⟩ => ⟨n, t, b, w, p⟩⟩

theorem tile_eq_ok_iff {t : Nat} {tile : Tile} :
    Check.tile r t tile = .ok () ↔
      ∃ tt, r.tileTypes[tile.tileType]? = some tt ∧ tile.Valid r tt := by
  unfold Check.tile
  split
  case h_1 missing => simp [missing]
  case h_2 tt found =>
    simp only [seq_eq_ok_iff, none_eq_ok_iff, require_eq_ok_iff, decide_eq_true_eq,
      decide_eq_false_iff_not, Nat.not_le, List.mem_filterMap, Array.mem_toList_iff, id,
      exists_eq_right, found, Option.some.injEq, exists_eq_left']
    exact ⟨fun ⟨w, n, s⟩ => ⟨w, n, s⟩, fun ⟨w, n, s⟩ => ⟨w, n, s⟩⟩

theorem hasWire_eq_true_iff {w : TileWire} :
    hasWire r w = true ↔ ∃ tile tt, r.tiles[w.tile]? = some tile ∧
      r.tileTypes[tile.tileType]? = some tt ∧ w.index < tt.wires.size := by
  unfold hasWire
  split
  case h_1 missing => simp [missing]
  case h_2 tile found =>
    split
    case h_1 missing => simp [found, missing]
    case h_2 tt typed => simp [found, typed]

theorem node_eq_ok_iff {n : Nat} {entry : Node} :
    Check.node r n entry = .ok () ↔ entry.Valid r := by
  simp only [Check.node, seq_eq_ok_iff, ident_eq_ok_iff, none_eq_ok_iff, require_eq_ok_iff,
    Bool.not_eq_false', hasWire_eq_true_iff, Array.mem_toList_iff]
  have nonempty : (!entry.tileWires.isEmpty) = true ↔ 0 < entry.tileWires.size := by
    simp [Nat.pos_iff_ne_zero]
  rw [nonempty]
  exact ⟨fun ⟨i, n, m⟩ => ⟨i, n, m⟩, fun ⟨i, n, m⟩ => ⟨i, n, m⟩⟩

end Check

theorem Check.mapError_eq_ok_iff {x : Check.Result} {f : Malformation → ChipError} :
    x.mapError f = .ok () ↔ x = .ok () := by
  cases x <;> simp [Except.mapError]

open Check in
theorem ChipRecord.accepted_iff_valid {r : ChipRecord} : r.Accepted ↔ r.Valid := by
  have tileTypes : each r.tileTypes (tileType r) = .ok () ↔ ∀ tt ∈ r.tileTypes, tt.Valid r :=
    each_eq_ok_iff fun _ _ => tileType_eq_ok_iff
  have tiles : each r.tiles (Check.tile r) = .ok () ↔
      ∀ tile ∈ r.tiles, ∃ tt, r.tileTypes[tile.tileType]? = some tt ∧ tile.Valid r tt :=
    each_eq_ok_iff fun _ _ => tile_eq_ok_iff
  have nodes : each r.nodes (Check.node r) = .ok () ↔ ∀ n ∈ r.nodes, n.Valid r :=
    each_eq_ok_iff fun _ _ => node_eq_ok_iff
  by_cases count : r.knownIdCount = Known.count
  case pos =>
    have whole : r.Accepted ↔ (do
        require (decide (r.tiles.size = r.width * r.height))
          (.tileCount r.tiles.size r.width r.height)
        each r.tileTypes (tileType r)
        each r.tiles (Check.tile r)
        each r.nodes (Check.node r) : Check.Result) = .ok () := by
      rw [ChipRecord.Accepted, Check.record, if_pos count]
      exact mapError_eq_ok_iff
    rw [whole, seq_eq_ok_iff, seq_eq_ok_iff, seq_eq_ok_iff, require_eq_ok_iff,
      decide_eq_true_eq, tileTypes, tiles, nodes]
    exact ⟨fun ⟨g, tt, t, n⟩ => ⟨count, g, tt, t, n⟩, fun ⟨_, g, tt, t, n⟩ => ⟨g, tt, t, n⟩⟩
  case neg =>
    have refused : ¬ r.Accepted := by
      rw [ChipRecord.Accepted, Check.record, if_neg count]
      simp [throw, throwThe, MonadExceptOf.throw, bind, Except.bind]
    exact iff_of_false refused fun h => count h.knownIdCount

theorem ChipDatabase.valid (db : ChipDatabase) : db.record.Valid :=
  ChipRecord.accepted_iff_valid.1 db.accepted

end Interconnect
