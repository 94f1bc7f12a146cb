import Interconnect.Proofs.Building.Delays
import Interconnect.Proofs.Building.Names
import Interconnect.Proofs.Building.Nodes
import Interconnect.Proofs.Building.Tiles
import Interconnect.Proofs.Building.Wiring
/-!
# Finished records

Finishing a record copies the tables that the steps have built, gives each tile its map of nodes, sorts
the timing tables and hands out the names behind the known ones. So what holds of the tables while a
record is built holds of every finished record.
-/
namespace Interconnect

def ChipRecord.identifiers (r : ChipRecord) : List Ident :=
  r.tileTypes.toList.flatMap (fun ty => ty.typeName ::
    (ty.wires.toList.flatMap (fun w => w.name :: w.intent :: w.belPins.toList.map (·.port)) ++
      ty.bels.toList.flatMap (fun b => b.name :: b.belType :: b.pins.toList.map (·.port)) ++
      ty.pips.toList.filterMap (·.bel))) ++
  r.nodes.toList.map (·.intent) ++
  r.timingTables.toList.flatMap fun table => table.instances.toList.flatMap fun inst =>
    inst.cellTypes.toList.flatMap fun c =>
      c.variant :: c.delays.toList.flatMap fun d => [d.fromPort, d.toPort]

/-- What the steps make of the names of a record. -/
structure ChipRecord.WellNamed (steps : List BuildStep) (r : ChipRecord) : Prop where
  fresh : (Known.names ++ r.extraIds.toList).Nodup
  table : ∀ db : ChipDatabase, db.record = r → db.identTable = .ok r.table
  names : r.table.names.toList = Known.names ++ r.extraIds.toList
  inRange : ∀ i ∈ r.identifiers, i < r.idLimit
  typeNames : r.table.Spells (r.tileTypes.toList.map (some ·.typeName))
    (some "NULL" :: steps.flatMap fun s => s.typeName?.toList.map some)
  intents : r.table.Spells (r.nodes.toList.map (some ·.intent))
    (steps.flatMap fun s => s.node?.toList.map fun (intent, _) => some intent)
  shelves : ∀ tt shelf, r.table.Spells (numbersAt r.tileTypes tt shelf)
    (steps.flatMap (·.words tt shelf))
  arcs : ∀ tt inst, r.table.SpellsArcs (arcsAt r.tileTypes r.timingTables tt inst)
    (BuildStep.delays steps tt inst)

/-- What the steps make of the nodes of a record. -/
structure ChipRecord.WellJoined (steps : List BuildStep) (r : ChipRecord) : Prop where
  members : r.nodes.toList.map (·.tileWires.toList) = BuildStep.joins steps
  sizes : ∀ tile ∈ r.tiles, ∃ ty, r.tileTypes[tile.tileType]? = some ty ∧
    tile.wireToNode.size = ty.wires.size
  nodeOf : ∀ (t : Nat) tile (w : Nat) entry, r.tiles[t]? = some tile →
    tile.wireToNode[w]? = some entry → ∀ n, entry = some n ↔ LastJoin (BuildStep.joins steps) ⟨t, w⟩ n

/-- What holds of a record that the steps build. -/
structure ChipRecord.WellBuilt (steps : List BuildStep) (r : ChipRecord) : Prop where
  wired : ∀ ty ∈ r.tileTypes, ty.Wired
  named : r.WellNamed steps
  joined : r.WellJoined steps
  tiled : Tiled r.width r.height steps r.tiles
  sorted : ∀ table ∈ r.timingTables, ∀ inst ∈ table.instances, inst.Sorted

namespace ChipBuilder

variable {b : ChipBuilder} {r : ChipRecord}

/-- The tables that finishing leaves as they are, and those that it derives. -/
structure Finished (b : ChipBuilder) (r : ChipRecord) : Prop where
  grid : (r.width, r.height, r.tiles.size) = (b.width, b.height, b.tiles.size)
  tileTypes : r.tileTypes = b.tileTypes
  nodes : r.nodes = b.nodes
  extraIds : r.extraIds = b.ids.names.extract Known.count b.ids.size
  timing : r.timingTables = (TimingData.tablesOf b.timing).map
    fun table => ⟨table.instances.map sortTiming⟩
  tiles : ∀ (t : Nat) tile, r.tiles[t]? = some tile → ∃ old ty, b.tiles[t]? = some old ∧
    r.tileTypes[old.tileType]? = some ty ∧ tile = { old with
      wireToNode := ((List.range ty.wires.size).map fun w => b.nodeOf[(⟨t, w⟩ : TileWire)]?).toArray }

theorem finish_finished (h : b.finish = .ok r) : b.Finished r := by
  obtain ⟨tiles, htiles, h⟩ := bind_eq_ok_iff.1 h
  obtain rfl := Except.ok.inj h
  constructor
  · simp [length_of_mapM htiles]
  · rfl
  · rfl
  · rfl
  · cases htiming : b.timing with
    | none => simp [ChipRecord.timingTables, TimingData.tablesOf]
    | some data => simp [ChipRecord.timingTables, TimingData.tablesOf]
  · intro t tile htile
    rcases getElem?_of_mapM htiles t with ⟨-, hnone⟩ | ⟨⟨old, k⟩, new, hold, hnew, hstep⟩
    · simp [hnone] at htile
    · obtain rfl : new = tile := by simpa [hnew] using htile
      obtain ⟨ty, hty, hstep⟩ := bind_eq_ok_iff.1 hstep
      obtain rfl := Except.ok.inj hstep
      rw [List.getElem?_zipIdx] at hold
      obtain ⟨same, hsame, hpair⟩ := Option.map_eq_some_iff.1 hold
      obtain ⟨rfl, hk⟩ := Prod.mk.inj hpair
      obtain rfl : t = k := by omega
      exact ⟨same, ty, by simpa using hsame, fetch_eq_ok_iff.1 hty, rfl⟩

/-- A builder that knows no names but those that are known and has made no step. -/
structure Blank (b : ChipBuilder) : Prop where
  tiled : Tiled b.width b.height [] b.tiles
  known : Known.names <+: b.ids.names.toList
  types : ∃ null, b.tileTypes = #[{ typeName := null }] ∧ b.ids.name? null = some "NULL"
  nodes : b.nodes = #[]
  nodeOf : b.nodeOf = ∅
  timing : b.timing = none

theorem start_blank (name : String) (width height : Nat) : (start name width height).Blank := by
  -- The known names are many: nothing here may compute their table.
  obtain ⟨first, hfirst⟩ : ∃ first, first = Known.table.intern "NULL" := ⟨_, rfl⟩
  have htiled := tiled_start name width height
  have hnull := hfirst ▸ IdentTable.name?_intern Known.table "NULL"
  have hknown := hfirst ▸ IdentTable.names_prefix_intern Known.table "NULL"
  rw [Known.names_table] at hknown
  rw [start, ← hfirst] at htiled ⊢
  cases first with
  | mk null ids => exact ⟨htiled, hknown, ⟨null, rfl, hnull⟩, rfl, rfl, rfl⟩

theorem Blank.numbersAt (h : b.Blank) (tt : Nat) (shelf : TileType.Shelf) :
    numbersAt b.tileTypes tt shelf = [] := by
  obtain ⟨null, htypes, -⟩ := h.types
  rw [Interconnect.numbersAt, List.flatMap_eq_nil_iff]
  intro ty hty
  have hmem := Array.mem_of_getElem? (Option.mem_toList.1 hty)
  obtain rfl : ty = { typeName := null } := by simpa [htypes] using hmem
  cases shelf <;> rfl

theorem Blank.timed (h : b.Blank) :
    Timed b.ids [] b.tileTypes (TimingData.tablesOf b.timing) := by
  obtain ⟨null, htypes, -⟩ := h.types
  rw [h.timing]
  apply timed_start
  intro ty hty
  obtain rfl : ty = { typeName := null } := by simpa [htypes] using hty
  rfl

end ChipBuilder

open ChipBuilder

variable {b : ChipBuilder} {r : ChipRecord} {steps : List BuildStep} {name : String}
  {width height : Nat} {outs : List (Option Nat)}

theorem names_of_finished (hr : b.Finished r) (hknown : Known.names <+: b.ids.names.toList) :
    Known.names ++ r.extraIds.toList = b.ids.names.toList := by
  obtain ⟨rest, hrest⟩ := hknown
  have hextra : r.extraIds.toList = rest := by
    rw [hr.extraIds, Array.toList_extract, ← hrest, IdentTable.size, ← Array.length_toList, ← hrest]
    simp [Known.count]
  rw [hextra, hrest]

/-- What a whole build leaves in the tables that are finished. -/
structure Built (steps : List BuildStep) (b : ChipBuilder) : Prop where
  tiled : Tiled b.width b.height steps b.tiles
  known : Known.names <+: b.ids.names.toList
  wired : ∀ ty ∈ b.tileTypes, ty.Wired
  typeNames : b.ids.Spells (b.tileTypes.toList.map (some ·.typeName))
    (some "NULL" :: steps.flatMap fun s => s.typeName?.toList.map some)
  intents : b.ids.Spells (b.nodes.toList.map (some ·.intent))
    (steps.flatMap fun s => s.node?.toList.map fun (intent, _) => some intent)
  shelves : ∀ tt shelf, b.ids.Spells (numbersAt b.tileTypes tt shelf)
    (steps.flatMap (·.words tt shelf))
  joined : Joined steps b.nodes b.nodeOf
  timed : Timed b.ids steps b.tileTypes (TimingData.tablesOf b.timing)

theorem built_of_run {b₀ : ChipBuilder} (hb : b₀.Blank) (h : b₀.run steps = .ok (outs, b)) :
    Built steps b := by
  obtain ⟨null, htypes, hnull⟩ := hb.types
  constructor
  · exact run_tiled hb.tiled h
  · exact hb.known.trans (run_names h)
  · apply run_keeps (fun _ b => ∀ ty ∈ b.tileTypes, ty.Wired) _ _ h
    · exact fun _ _ _ _ hwired heffect => heffect.types.wired hwired
    · intro ty hty
      obtain rfl : ty = { typeName := null } := by simpa [htypes] using hty
      exact TileType.wired_new null
  · apply run_spells (fun b => b.tileTypes.toList.map (some ·.typeName)) [some "NULL"] _ _ h
    · exact fun _ _ _ heffect => heffect.types.typeNames
    · rw [htypes]
      exact IdentTable.spells_one hnull
  · apply run_spells (fun b => b.nodes.toList.map (some ·.intent)) [] _ _ h
    · exact fun _ _ _ heffect => heffect.nodes.intents
    · rw [hb.nodes]
      exact IdentTable.spells_nil
  · intro tt shelf
    apply run_spells (fun b => numbersAt b.tileTypes tt shelf) [] _ _ h
    · exact fun _ _ _ heffect => heffect.types.numbersAt tt shelf
    · rw [hb.numbersAt]
      exact IdentTable.spells_nil
  · apply run_joined _ h
    rw [hb.nodes, hb.nodeOf]
    exact joined_start
  · exact run_timed hb.timed h

theorem TileType.exists_shelf {ty : TileType} {i : Ident}
    (hi : i ∈ ty.wires.toList.flatMap (fun w => w.name :: w.intent :: w.belPins.toList.map (·.port)) ++
      ty.bels.toList.flatMap (fun b => b.name :: b.belType :: b.pins.toList.map (·.port)) ++
      ty.pips.toList.filterMap (·.bel)) : ∃ shelf, some i ∈ ty.numbers shelf := by
  rw [List.mem_append, List.mem_append] at hi
  rcases hi with (hi | hi) | hi
  · obtain ⟨wire, hwire, hi⟩ := List.mem_flatMap.1 hi
    obtain ⟨w, hw⟩ := List.mem_iff_getElem?.1 hwire
    simp only [List.mem_cons, List.mem_map] at hi
    rcases hi with rfl | rfl | ⟨p, hp, rfl⟩
    · exact ⟨.wires, List.mem_flatMap.2 ⟨wire, hwire, by simp⟩⟩
    · exact ⟨.wires, List.mem_flatMap.2 ⟨wire, hwire, by simp⟩⟩
    · refine ⟨.wirePins w, List.mem_flatMap.2 ⟨wire, ?_, List.mem_map.2 ⟨p, hp, rfl⟩⟩⟩
      simpa using hw
  · obtain ⟨bel, hbel, hi⟩ := List.mem_flatMap.1 hi
    obtain ⟨b, hb⟩ := List.mem_iff_getElem?.1 hbel
    simp only [List.mem_cons, List.mem_map] at hi
    rcases hi with rfl | rfl | ⟨p, hp, rfl⟩
    · exact ⟨.bels, List.mem_flatMap.2 ⟨bel, hbel, by simp⟩⟩
    · exact ⟨.bels, List.mem_flatMap.2 ⟨bel, hbel, by simp⟩⟩
    · refine ⟨.belPins b, List.mem_flatMap.2 ⟨bel, ?_, List.mem_map.2 ⟨p, hp, rfl⟩⟩⟩
      simpa using hb
  · obtain ⟨p, hp, hbel⟩ := List.mem_filterMap.1 hi
    exact ⟨.pips, List.mem_map.2 ⟨p, hp, hbel⟩⟩

theorem exists_name_of_arcsIn (hb : Built steps b) {k n : Nat} {variant : Ident} {arc : ArcDelay}
    (harc : (variant, arc) ∈ arcsIn (TimingData.tablesOf b.timing) k n) :
    ∃ v f g, b.ids.name? variant = some v ∧ b.ids.name? arc.fromPort = some f ∧
      b.ids.name? arc.toPort = some g := by
  have hk : k < (TimingData.tablesOf b.timing).size := by
    obtain ⟨table, htable, -⟩ := List.mem_flatMap.1 harc
    exact (Array.getElem?_eq_some_iff.1 (Option.mem_toList.1 htable)).1
  obtain ⟨tt, htt⟩ := hb.timed.owned.owner k hk
  apply (hb.timed.arcs tt n).exists_name
  rwa [arcsAt, htt, Option.toList_some, List.flatMap_singleton]

/-- The numbers of names in a finished record are those of the tables that steps fill. -/
theorem exists_name_of_mem_identifiers (hb : Built steps b) (hr : b.Finished r) {i : Ident}
    (hi : i ∈ r.identifiers) : ∃ name, b.ids.name? i = some name := by
  rw [ChipRecord.identifiers, List.mem_append, List.mem_append] at hi
  rcases hi with (hi | hi) | hi
  · obtain ⟨ty, hty, hi⟩ := List.mem_flatMap.1 hi
    rw [hr.tileTypes] at hty
    rcases List.mem_cons.1 hi with rfl | hi
    · exact hb.typeNames.exists_name (List.mem_map.2 ⟨ty, hty, rfl⟩)
    · obtain ⟨tt, htt⟩ := List.mem_iff_getElem?.1 hty
      obtain ⟨shelf, hshelf⟩ := TileType.exists_shelf hi
      apply (hb.shelves tt shelf).exists_name
      rw [Array.getElem?_toList] at htt
      simpa [numbersAt, htt] using hshelf
  · apply hb.intents.exists_name
    rw [hr.nodes] at hi
    simpa using hi
  · obtain ⟨table, htable, hi⟩ := List.mem_flatMap.1 hi
    obtain ⟨inst, hinst, hi⟩ := List.mem_flatMap.1 hi
    obtain ⟨c, hc, hi⟩ := List.mem_flatMap.1 hi
    obtain ⟨k, hk⟩ := List.mem_iff_getElem?.1 htable
    obtain ⟨n, hn⟩ := List.mem_iff_getElem?.1 hinst
    have hstands (d : ArcDelay) (hd : d ∈ c.delays.toList) :
        (c.variant, d) ∈ arcsIn (TimingData.tablesOf b.timing) k n := by
      apply (arcsIn_sortTiming _ k n).mem_iff.1
      rw [← hr.timing, arcsIn_of_getElem? (by simpa using hk) (by simpa using hn)]
      exact List.mem_flatMap.2 ⟨c, hc, List.mem_map.2 ⟨d, hd, rfl⟩⟩
    rcases List.mem_cons.1 hi with rfl | hi
    · have hfilled : c.delays.toList ≠ [] := by
        rw [hr.timing, Array.mem_toList_iff] at htable
        obtain ⟨old, hold, rfl⟩ := Array.mem_map.1 htable
        obtain ⟨entry, hentry, rfl⟩ := Array.mem_map.1 (Array.mem_toList_iff.1 hinst)
        exact (hb.timed.grouped old hold entry hentry).filled_sortTiming c hc
      obtain ⟨d, hd⟩ := List.exists_mem_of_ne_nil _ hfilled
      obtain ⟨v, -, -, hv, -⟩ := exists_name_of_arcsIn hb (hstands d hd)
      exact ⟨v, hv⟩
    · obtain ⟨d, hd, hi⟩ := List.mem_flatMap.1 hi
      obtain ⟨-, f, g, -, hf, hg⟩ := exists_name_of_arcsIn hb (hstands d hd)
      simp only [List.mem_cons, List.not_mem_nil, or_false] at hi
      rcases hi with rfl | rfl
      · exact ⟨f, hf⟩
      · exact ⟨g, hg⟩

theorem wellNamed_of_built (hb : Built steps b) (hr : b.Finished r) : r.WellNamed steps := by
  have hnames := names_of_finished hr hb.known
  have hfresh : (Known.names ++ r.extraIds.toList).Nodup := hnames ▸ b.ids.names_nodup
  have htable := ChipRecord.names_table hfresh
  have hkeep (i : Ident) (name : String) (h : b.ids.name? i = some name) :
      r.table.name? i = some name := by
    rw [IdentTable.name?, ← Array.getElem?_toList, htable, hnames, Array.getElem?_toList]
    exact h
  constructor
  · exact hfresh
  · intro db hdb
    subst hdb
    exact ChipDatabase.identTable_eq hfresh
  · exact htable
  · intro i hi
    obtain ⟨name, hname⟩ := exists_name_of_mem_identifiers hb hr hi
    have hlt : i < b.ids.names.toList.length := by
      simpa using (Array.getElem?_eq_some_iff.1 hname).1
    rwa [← hnames, List.length_append] at hlt
  · rw [hr.tileTypes]
    exact hb.typeNames.of_name? hkeep
  · rw [hr.nodes]
    exact hb.intents.of_name? hkeep
  · intro tt shelf
    rw [hr.tileTypes]
    exact (hb.shelves tt shelf).of_name? hkeep
  · intro tt inst
    rw [hr.tileTypes, hr.timing]
    apply IdentTable.SpellsArcs.of_name? _ hkeep
    have hsame : (arcsAt b.tileTypes ((TimingData.tablesOf b.timing).map fun table =>
        ⟨table.instances.map sortTiming⟩) tt inst).Perm
        (arcsAt b.tileTypes (TimingData.tablesOf b.timing) tt inst) :=
      List.Perm.flatMap_left _ fun index _ => arcsIn_sortTiming _ index inst
    exact (hsame.map _).trans (hb.timed.arcs tt inst)

theorem wellJoined_of_built (hb : Built steps b) (hr : b.Finished r) : r.WellJoined steps := by
  constructor
  · rw [hr.nodes]
    exact hb.joined.members
  · intro tile htile
    obtain ⟨t, ht⟩ := Array.mem_iff_getElem?.1 htile
    obtain ⟨old, ty, -, hty, rfl⟩ := hr.tiles t tile ht
    exact ⟨ty, hty, by simp⟩
  · intro t tile w entry htile hentry n
    obtain ⟨old, ty, -, -, rfl⟩ := hr.tiles t tile htile
    rw [List.getElem?_toArray, List.getElem?_map] at hentry
    obtain ⟨k, hk, rfl⟩ := Option.map_eq_some_iff.1 hentry
    obtain rfl : w = k := by
      have hget := List.getElem?_eq_some_iff.1 hk
      simpa using hget.2
    exact hb.joined.nodeOf ⟨t, w⟩ n

/-- Finishing gives a tile its nodes and leaves its name, its type and its sites. -/
theorem tiled_of_built (hb : Built steps b) (hr : b.Finished r) :
    Tiled r.width r.height steps r.tiles := by
  obtain ⟨hwidth, hgrid⟩ := Prod.mk.inj hr.grid
  obtain ⟨hheight, hsize⟩ := Prod.mk.inj hgrid
  rw [hwidth, hheight]
  constructor
  · rw [hsize]
    exact hb.tiled.size
  · intro t tile htile
    obtain ⟨old, ty, hold, -, rfl⟩ := hr.tiles t tile htile
    exact hb.tiled.placed t old hold
  · intro t tile htile
    obtain ⟨old, ty, hold, -, rfl⟩ := hr.tiles t tile htile
    exact hb.tiled.sites t old hold

theorem exists_built (h : ChipRecord.build name width height steps = .ok (outs, r)) :
    ∃ b, Built steps b ∧ b.Finished r := by
  obtain ⟨⟨outs', b⟩, hrun, h⟩ := bind_eq_ok_iff.1 h
  obtain ⟨r', hfinish, h⟩ := bind_eq_ok_iff.1 h
  obtain ⟨rfl, rfl⟩ := Prod.mk.inj (Except.ok.inj h)
  exact ⟨b, built_of_run (start_blank name width height) hrun, finish_finished hfinish⟩

/-- Whatever the steps, a record that they build is well formed. -/
theorem wellBuilt_of_build (h : ChipRecord.build name width height steps = .ok (outs, r)) :
    r.WellBuilt steps := by
  obtain ⟨b, hb, hr⟩ := exists_built h
  constructor
  · rw [hr.tileTypes]
    exact hb.wired
  · exact wellNamed_of_built hb hr
  · exact wellJoined_of_built hb hr
  · exact tiled_of_built hb hr
  · rw [hr.timing]
    intro table htable inst hinst
    obtain ⟨old, hold, rfl⟩ := Array.mem_map.1 htable
    obtain ⟨entry, hentry, rfl⟩ := Array.mem_map.1 hinst
    exact (hb.timed.grouped old hold entry hentry).sorted

/-- One tile with a lookup table. A wire is joined twice, a delay comes before its table is opened, and
the variants come in descending order. -/
def lutSteps : List BuildStep :=
  [.ident "LUT5", .tileType "CLB", .wire 1 "IN" "NODE_LOCAL", .wire 1 "OUT" "NODE_LOCAL",
   .pip 1 0 1, .sitePip 1 1 0 0 "LUT", .bel 1 "LUT" "SLICE_LUTX" 0 (some 0),
   .belPin 1 0 "A1" 0 .input, .belPin 1 0 "O6" 1 .output, .setTile 0 0 "CLB_X0Y0" 1,
   .site 0 "SLICE_X0Y0" "SLICE" "" none, .node "NODE_LOCAL" [⟨0, 0⟩, ⟨0, 1⟩],
   .node "NODE_SINGLE" [⟨0, 1⟩], .cellDelay 1 0 "LUT6" "A1" "O6" 90, .timingInstance 1,
   .belTiming 1 0 0, .cellDelay 1 0 "LUT6" "A2" "O6" 120, .cellDelay 1 0 "LUT6" "A1" "O5" 110,
   .cellDelay 1 0 "LUT5" "A1" "O5" 100]

theorem wellBuilt_of_build_lut : ∃ outs r,
    ChipRecord.build "xc7a" 1 1 lutSteps = .ok (outs, r) ∧ r.WellBuilt lutSteps := by
  have hanswers : (ChipRecord.build "xc7a" 1 1 lutSteps).isOk = true := by decide +kernel
  cases hbuild : ChipRecord.build "xc7a" 1 1 lutSteps with
  | error e =>
    rw [hbuild] at hanswers
    cases hanswers
  | ok built => exact ⟨built.1, built.2, rfl, wellBuilt_of_build hbuild⟩

end Interconnect
