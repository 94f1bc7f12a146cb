import Interconnect.Proofs.Device.Open
import Mathlib.Data.List.Nodup
/-!
# Wires of a node

A record says twice which wires a node joins: the node lists them, and the map of each tile names the
node of each of its wires. Handles and names follow the maps alone, so the wires that a node lists are
one wire exactly where the two agree.
-/
namespace Interconnect

namespace ChipRecord

/-- Whether a node lists a wire of a tile. -/
def Lists (r : ChipRecord) (n : Nat) (m : TileWire) : Prop :=
  ∃ node, r.nodes[n]? = some node ∧ m ∈ node.tileWires

/-- Whether a tile's map names a node for a wire. -/
def Maps (r : ChipRecord) (m : TileWire) (n : Nat) : Prop :=
  ∃ tile, r.tiles[m.tile]? = some tile ∧ tile.wireToNode[m.index]? = some (some n)

/-- No two tiles share a name, no two wires of a tile type do, and no tile has a stroke in its name. -/
structure NamesApart (r : ChipRecord) : Prop where
  tiles : (r.tiles.toList.map (·.name)).Nodup
  wires : ∀ tt ∈ r.tileTypes, (tt.wires.toList.map (·.name)).Nodup
  strokes : ∀ tile ∈ r.tiles, '/' ∉ tile.name.toList

end ChipRecord

namespace Device

variable {d : Device} {m : TileWire} {n : Nat} {w : WireId}

/-! ### Handles -/

theorem canonicalWire_eq_ok_iff : d.canonicalWire m = .ok w ↔ ∃ tile entry,
    d.record.tiles[m.tile]? = some tile ∧ tile.wireToNode[m.index]? = some entry ∧
      w = match entry with
        | some n => .node n
        | none => .tile m.tile m.index := by
  simp only [canonicalWire, bind_eq_ok_iff, tile, fetch_eq_ok_iff]
  constructor
  · intro h
    obtain ⟨tile, htile, entry, hentry, h⟩ := h
    refine ⟨tile, entry, htile, hentry, ?_⟩
    cases entry <;> exact (Except.ok.inj h).symm
  · intro h
    obtain ⟨tile, entry, htile, hentry, rfl⟩ := h
    refine ⟨tile, htile, entry, hentry, ?_⟩
    cases entry <;> rfl

theorem canonicalWire_eq_node_iff : d.canonicalWire m = .ok (.node n) ↔ d.record.Maps m n := by
  rw [canonicalWire_eq_ok_iff]
  constructor
  · intro h
    obtain ⟨tile, entry, htile, hentry, h⟩ := h
    cases entry with
    | none => cases h
    | some k =>
      obtain rfl := WireId.node.inj h
      exact ⟨tile, htile, hentry⟩
  · intro h
    obtain ⟨tile, htile, hentry⟩ := h
    exact ⟨tile, some n, htile, hentry, rfl⟩

theorem eq_of_canonicalWire_tile {t i : Nat} (h : d.canonicalWire m = .ok (.tile t i)) :
    m = ⟨t, i⟩ := by
  obtain ⟨tile, entry, -, -, h⟩ := canonicalWire_eq_ok_iff.1 h
  cases entry with
  | some k => cases h
  | none =>
    obtain ⟨rfl, rfl⟩ := WireId.tile.inj h
    rfl

theorem mem_tileTypes_of_tileType {t : Nat} {tt : TileType} (h : d.tileType t = .ok tt) :
    tt ∈ d.record.tileTypes := by
  obtain ⟨tile, -, hfetch⟩ := bind_eq_ok_iff.1 h
  exact Array.mem_of_getElem? (fetch_eq_ok_iff.1 hfetch)

theorem hasBel_of_bel {b : BelId} {info : Bel} (h : d.bel b = .ok info) : d.HasBel b := by
  obtain ⟨tt, typed, h⟩ := bind_eq_ok_iff.1 h
  exact ⟨tt, typed, lt_size_of_fetch h⟩

theorem hasMember_of_lists (h : d.record.Lists n m) : d.HasMember m := by
  obtain ⟨node, hnode, hm⟩ := h
  exact hasMember_of_valid (d.valid.nodes node (Array.mem_of_getElem? hnode)) hm

/-! ### Names -/

theorem getElem?_foldl_insert_of_ne {α β : Type} (key : α → String) (value : α → β) {xs : List α}
    {index : Std.ExtTreeMap String β} {name : String} (h : name ∉ xs.map key) :
    (xs.foldl (fun index x => index.insert (key x) (value x)) index)[name]? = index[name]? := by
  induction xs generalizing index with
  | nil => rfl
  | cons x xs ih =>
    simp only [List.map_cons, List.mem_cons, not_or] at h
    rw [List.foldl_cons, ih h.2, Std.ExtTreeMap.getElem?_insert, if_neg]
    rw [Std.compare_eq_iff_eq]
    exact Ne.symm h.1

theorem getElem?_foldl_insert_of_nodup {α β : Type} (key : α → String) (value : α → β)
    {xs : List α} {index : Std.ExtTreeMap String β} (h : (xs.map key).Nodup) {x : α} (hx : x ∈ xs) :
    (xs.foldl (fun index x => index.insert (key x) (value x)) index)[key x]? = some (value x) := by
  induction xs generalizing index with
  | nil => cases hx
  | cons y xs ih =>
    rw [List.map_cons, List.nodup_cons] at h
    rcases List.mem_cons.1 hx with rfl | hx
    · rw [List.foldl_cons, getElem?_foldl_insert_of_ne key value h.1]
      simp
    · exact ih h.2 hx

/-- A device has the identifiers of its database and finds tiles in an index of their names. -/
structure Opened (d : Device) : Prop where
  ids : d.db.identTable = .ok d.ids
  tileIndex : d.tileIndex = d.record.tiles.toList.zipIdx.foldl (fun m x => m.insert x.1.name x.2) ∅

theorem eq_of_ofDatabase {db : ChipDatabase} (h : ofDatabase db = .ok (.ok d)) :
    ∃ ids blacklist, db.identTable = .ok ids ∧ d = {
      db, ids, blacklist
      tileIndex := db.record.tiles.toList.zipIdx.foldl (fun m x => m.insert x.1.name x.2) ∅
      siteIndex := (sitesOf db.record).foldl (fun m x => m.insert x.2.name x.1) ∅
      pinSites := (sitesOf db.record).foldl (fun m x =>
        if isPackagePin x.2.pin then m.insert x.2.pin x.2.name else m) ∅ } := by
  unfold ofDatabase at h
  split at h
  case h_1 => cases h
  case h_2 ids hids =>
    split at h
    · obtain ⟨blacklist, -, h⟩ := bind_eq_ok_iff.1 h
      exact ⟨ids, blacklist, hids, (Except.ok.inj (Except.ok.inj h)).symm⟩
    · obtain ⟨blacklist, -, h⟩ := bind_eq_ok_iff.1 h
      exact ⟨ids, blacklist, hids, (Except.ok.inj (Except.ok.inj h)).symm⟩

theorem opened_of_ofDatabase {db : ChipDatabase} (h : ofDatabase db = .ok (.ok d)) :
    d.db = db ∧ d.Opened := by
  obtain ⟨ids, blacklist, hids, rfl⟩ := eq_of_ofDatabase h
  exact ⟨rfl, hids, rfl⟩

theorem record_of_ofDatabase {r : ChipRecord} {checksum : ContentHash} {db : ChipDatabase}
    (accepted : ChipDatabase.ofRecord r checksum = .ok db) (opened : ofDatabase db = .ok (.ok d)) :
    d.record = r := by
  rw [record, (opened_of_ofDatabase opened).1, ChipDatabase.record_of_ofRecord accepted]

theorem exists_of_check {db : ChipDatabase} {check : Device → Bool}
    (h : (do
      let opened ← ofDatabase db
      return opened.toOption.map check) = Except.ok (some true)) :
    ∃ d, ofDatabase db = .ok (.ok d) ∧ check d = true := by
  obtain ⟨opened, hopened, h⟩ := bind_eq_ok_iff.1 h
  cases opened with
  | error e => cases h
  | ok d => exact ⟨d, hopened, Option.some.inj (Except.ok.inj h)⟩

theorem tileByName_of_names (h : d.Opened) (hnames : (d.record.tiles.toList.map (·.name)).Nodup)
    {t : Nat} {tile : Tile} (htile : d.record.tiles[t]? = some tile) :
    d.tileByName tile.name = some t := by
  have hmem : (tile, t) ∈ d.record.tiles.toList.zipIdx := by
    rw [List.mk_mem_zipIdx_iff_getElem?, Array.getElem?_toList]
    exact htile
  have hkeys : (d.record.tiles.toList.zipIdx.map fun x => x.1.name).Nodup := by
    have hfst : d.record.tiles.toList.zipIdx.map (fun x => x.1.name) =
        (d.record.tiles.toList.zipIdx.map Prod.fst).map (·.name) := by
      rw [List.map_map]
      rfl
    rwa [hfst, List.zipIdx_map_fst]
  rw [tileByName, h.tileIndex]
  exact getElem?_foldl_insert_of_nodup (fun x : Tile × Nat => x.1.name) Prod.snd hkeys hmem

theorem findIdx?_key {α β : Type} [DecidableEq β] (key : α → Option β) {xs : List α}
    (h : (xs.filterMap key).Nodup) {i : Nat} {x : α} {k : β} (hx : xs[i]? = some x)
    (hk : key x = some k) : (xs.findIdx? fun y => key y = some k) = some i := by
  induction xs generalizing i with
  | nil => cases hx
  | cons y ys ih =>
    rw [List.findIdx?_cons]
    cases i with
    | zero =>
      obtain rfl := Option.some.inj hx
      rw [if_pos (decide_eq_true hk)]
    | succ i =>
      have hmem : k ∈ ys.filterMap key := List.mem_filterMap.2 ⟨x, List.mem_of_getElem? hx, hk⟩
      have hy : key y ≠ some k := by
        intro hy
        rw [List.filterMap_cons_some hy] at h
        exact (List.nodup_cons.1 h).1 hmem
      have hrest : (ys.filterMap key).Nodup :=
        h.sublist ((List.sublist_cons_self y ys).filterMap key)
      rw [if_neg (by simpa using hy), ih hrest hx]
      rfl

theorem findIdx?_name {wires : Array Wire} (h : (wires.toList.map (·.name)).Nodup) {i : Nat}
    {wire : Wire} (hwire : wires[i]? = some wire) :
    (wires.findIdx? fun x => x.name = wire.name) = some i := by
  have hfirst := findIdx?_key (fun x : Wire => some x.name) (by simpa using h)
    (by simpa using hwire) rfl
  simpa only [← List.findIdx?_toArray, Option.some.injEq] using hfirst

theorem toList_owned (owner rest : String) :
    (s!"{owner}/{rest}").toList = owner.toList ++ '/' :: rest.toList := by
  simp only [String.toList_append, List.append_assoc]
  rfl

theorem cutFirst?_owned {owner : String} (rest : String) (h : '/' ∉ owner.toList) :
    Text.cutFirst? '/' (s!"{owner}/{rest}").toList = some (owner.toList, rest.toList) := by
  rw [toList_owned, Text.cutFirst?_append_cons h]

theorem Opened.named (h : d.Opened) : d.Named := 
  Nat.le_of_eq (ChipDatabase.size_of_identTable h.ids).symm

/-- The name of a wire of a tile leads back to the wire. -/
theorem wireByName_memberName (h : d.Opened) (hnames : d.record.NamesApart) (hm : d.HasMember m) :
    ∃ name, d.memberName m = .ok name ∧ d.wireByName name = (d.canonicalWire m).map some := by
  obtain ⟨tt, typed, inside⟩ := hm
  obtain ⟨tile, entry⟩ := tileEntry_of_tileType typed
  have htile : d.record.tiles[m.tile]? = some tile := fetch_eq_ok_iff.1 entry.found
  have htt := mem_tileTypes_of_tileType typed
  obtain ⟨info, hinfo, hmem⟩ := answers_fetch inside
  have hlt : info.name < d.record.idLimit :=
    (entry.valid.wires info hmem).name
  obtain ⟨name, hname, -⟩ := h.named.answers_nameOf hlt
  have hfind : d.ids.find? name = some info.name :=
    IdentTable.find?_eq_some_iff.2 (fetch_eq_ok_iff.1 hname)
  refine ⟨s!"{tile.name}/{name}", ?_, ?_⟩
  · rw [memberName, tileName, entry.found, memberInfo, typed]
    simp only [bind, Except.bind, pure, Except.pure, hinfo, hname]
  · have hcut := cutFirst?_owned name (hnames.strokes tile (Array.mem_of_getElem? htile))
    rw [wireByName, hcut]
    simp only [String.ofList_toList, tileByName_of_names h hnames.tiles htile, hfind, typed]
    have hfirst := findIdx?_name (hnames.wires tt htt) (fetch_eq_ok_iff.1 hinfo)
    simp only [bind, Except.bind, pure, Except.pure, hfirst]
    cases d.canonicalWire m <;> rfl

end Device

variable {r : ChipRecord} {checksum : ContentHash} {db : ChipDatabase} {d : Device}

/-- All wires that a node lists have the node's handle, and their names find the node, exactly if the
map of each of their tiles names the node. -/
theorem node_is_one_wire_iff (accepted : ChipDatabase.ofRecord r checksum = .ok db)
    (opened : Device.ofDatabase db = .ok (.ok d)) (names : r.NamesApart) :
    (∀ n m, r.Lists n m → d.canonicalWire m = .ok (.node n) ∧
      ∃ name, d.memberName m = .ok name ∧ d.wireByName name = .ok (some (.node n))) ↔
    ∀ n m, r.Lists n m → r.Maps m n := by
  obtain ⟨same, hopened⟩ := Device.opened_of_ofDatabase opened
  have record : d.record = r := by
    rw [Device.record, same, ChipDatabase.record_of_ofRecord accepted]
  subst record
  constructor
  · intro h n m hlists
    exact Device.canonicalWire_eq_node_iff.1 (h n m hlists).1
  · intro h n m hlists
    have hnode := Device.canonicalWire_eq_node_iff.2 (h n m hlists)
    obtain ⟨name, hname, hfound⟩ :=
      Device.wireByName_memberName hopened names (Device.hasMember_of_lists hlists)
    refine ⟨hnode, name, hname, ?_⟩
    rw [hfound, hnode]
    rfl

theorem node_is_one_wire_iff_span : ∃ db d, ChipDatabase.ofRecord spanRecord ⟨[]⟩ = .ok db ∧
    Device.ofDatabase db = .ok (.ok d) ∧ spanRecord.NamesApart ∧
    ∀ n m, spanRecord.Lists n m → d.canonicalWire m = .ok (.node n) ∧
      ∃ name, d.memberName m = .ok name ∧ d.wireByName name = .ok (some (.node n)) := by
  have accepted : ChipDatabase.ofRecord spanRecord ⟨[]⟩ = .ok ⟨spanRecord, ⟨[]⟩, rfl⟩ := rfl
  obtain ⟨d, opened⟩ := @Device.exists_ofDatabase ⟨spanRecord, ⟨[]⟩, rfl⟩
    (Known.nodup_append (by decide) (by decide +kernel))
  have names : spanRecord.NamesApart := by constructor <;> decide +kernel
  refine ⟨_, d, accepted, opened, names, (node_is_one_wire_iff accepted opened names).2 ?_⟩
  intro n m hlists
  obtain ⟨node, hnode, hm⟩ := hlists
  obtain rfl : n = 0 := by
    have hlt : n < 1 := (Array.getElem?_eq_some_iff.1 hnode).1
    omega
  obtain rfl : node = ⟨0, #[⟨0, 1⟩, ⟨1, 1⟩]⟩ := (Option.some.inj hnode).symm
  have hcases : m = ⟨0, 1⟩ ∨ m = ⟨1, 1⟩ := by simpa using hm
  rcases hcases with rfl | rfl
  · exact ⟨_, rfl, rfl⟩
  · exact ⟨_, rfl, rfl⟩

/-! One tile whose two wires are a node, of which the tile's map knows only the first. -/

def splitRecord : ChipRecord where
  name := "xcvu"
  generator := ""
  width := 1
  height := 1
  knownIdCount := Known.count
  extraIds := #["A", "B"]
  tileTypes := #[{
    typeName := 0
    wires := #[⟨Known.count, 0, none, #[], #[], #[]⟩, ⟨Known.count + 1, 0, none, #[], #[], #[]⟩] }]
  tiles := #[⟨"T", 0, #[], #[some 0, none]⟩]
  nodes := #[⟨0, #[⟨0, 0⟩, ⟨0, 1⟩]⟩]
  timing := none

/-- An accepted record may list a wire for a node that its tile does not map there. Then the wires of
the node have two handles, and their names find two wires. -/
theorem node_splits : ∃ db d, ChipDatabase.ofRecord splitRecord ⟨[]⟩ = .ok db ∧
    Device.ofDatabase db = .ok (.ok d) ∧ splitRecord.NamesApart ∧
    splitRecord.Lists 0 ⟨0, 0⟩ ∧ splitRecord.Lists 0 ⟨0, 1⟩ ∧
    d.canonicalWire ⟨0, 0⟩ = .ok (.node 0) ∧ d.canonicalWire ⟨0, 1⟩ = .ok (.tile 0 1) ∧
    d.memberName ⟨0, 1⟩ = .ok "T/B" ∧ d.wireByName "T/B" = .ok (some (.tile 0 1)) := by
  have accepted : ChipDatabase.ofRecord splitRecord ⟨[]⟩ = .ok ⟨splitRecord, ⟨[]⟩, rfl⟩ := rfl
  have opens : (do
      let opened ← Device.ofDatabase ⟨splitRecord, ⟨[]⟩, rfl⟩
      return opened.toOption.map fun d => decide (
        d.canonicalWire ⟨0, 0⟩ = .ok (.node 0) ∧ d.canonicalWire ⟨0, 1⟩ = .ok (.tile 0 1) ∧
        d.memberName ⟨0, 1⟩ = .ok "T/B" ∧ d.wireByName "T/B" = .ok (some (.tile 0 1)))) =
      Except.ok (some true) := by decide +kernel
  obtain ⟨d, opened, hcheck⟩ := Device.exists_of_check opens
  have names : splitRecord.NamesApart := by constructor <;> decide +kernel
  have hfirst : splitRecord.Lists 0 ⟨0, 0⟩ :=
    ⟨⟨0, #[⟨0, 0⟩, ⟨0, 1⟩]⟩, rfl, by simp⟩
  have hsecond : splitRecord.Lists 0 ⟨0, 1⟩ :=
    ⟨⟨0, #[⟨0, 0⟩, ⟨0, 1⟩]⟩, rfl, by simp⟩
  exact ⟨_, d, accepted, opened, names, hfirst, hsecond, of_decide_eq_true hcheck⟩

end Interconnect
