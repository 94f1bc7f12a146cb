import Interconnect.Device.ClockRegion
import Interconnect.Proofs.Device.Accepted
/-!
# Handles in range

A handle is in range when it points at an entry of the record. Every question about such a handle
has an answer, and the handles in the answer are in range again.
-/
namespace Interconnect

/-! ## Questions with answers -/

/-- A question has an answer with a property. -/
def Answers {α : Type} (q : Query α) (P : α → Prop) : Prop := ∃ a, q = .ok a ∧ P a

section
variable {α β : Type} {P : α → Prop} {Q : β → Prop}

theorem answers_ok {a : α} (h : P a) : Answers (.ok a) P := ⟨a, rfl, h⟩

theorem Answers.mono {R : α → Prop} {q : Query α} (h : Answers q P) (hPR : ∀ a, P a → R a) :
    Answers q R := by
  obtain ⟨a, ha, hP⟩ := h
  exact ⟨a, ha, hPR a hP⟩

theorem Answers.of_eq_ok {q : Query α} {a : α} (h : Answers q P) (hq : q = .ok a) : P a := by
  obtain ⟨b, hb, hP⟩ := h
  obtain rfl := Except.ok.inj (hq.symm.trans hb)
  exact hP

theorem Answers.bind {q : Query α} {f : α → Query β} (h : Answers q P)
    (hf : ∀ a, P a → Answers (f a) Q) : Answers (q >>= f) Q := by
  obtain ⟨a, rfl, hP⟩ := h
  exact hf a hP

theorem exists_of_any {q : Query α} {check : α → Bool} (h : q.toOption.any check = true) :
    ∃ a, q = .ok a ∧ check a = true := by
  cases q with
  | error f => cases h
  | ok a => exact ⟨a, rfl, h⟩

theorem Answers.map {q : Query α} {f : α → β} (h : Answers q P) (hf : ∀ a, P a → Q (f a)) :
    Answers (do return f (← q)) Q :=
  h.bind fun a ha => answers_ok (hf a ha)

theorem answers_fetch {table : Array α} {i : Nat} (h : i < table.size) :
    Answers (fetch table i) (· ∈ table) :=
  ⟨table[i], fetch_of_lt h, Array.getElem_mem h⟩

theorem answers_mapM {xs : List α} {f : α → Query β} (h : ∀ x ∈ xs, Answers (f x) Q) :
    Answers (xs.mapM f) (∀ y ∈ ·, Q y) := by
  induction xs with
  | nil => exact answers_ok (by simp)
  | cons x xs ih =>
    have later : Answers (xs.mapM f) (∀ y ∈ ·, Q y) := ih fun y hy => h y (by simp [hy])
    rw [List.mapM_cons]
    refine (h x (by simp)).bind fun y hy => later.bind fun ys hys => answers_ok ?_
    simpa [hy] using hys

/-- A walk over a list answers if each step does, from every state that the steps before may lead to. -/
theorem answers_foldlM {σ : Type} {xs : List α} {step : σ → α → Query σ} {I : σ → Prop} {s : σ}
    (hs : I s) (hstep : ∀ s x, x ∈ xs → I s → Answers (step s x) I) :
    Answers (xs.foldlM step s) I := by
  induction xs generalizing s with
  | nil => exact answers_ok hs
  | cons x xs ih =>
    rw [List.foldlM_cons]
    exact (hstep s x (by simp) hs).bind fun s' hs' =>
      ih hs' fun t y hy => hstep t y (by simp [hy])

end

namespace Device

variable {d : Device} {t : Nat}

/-! ## Range -/

def HasTile (d : Device) (t : Nat) : Prop := t < d.tileCount

def HasSite (d : Device) (s : SiteId) : Prop :=
  ∃ tile, d.tile s.tile = .ok tile ∧ s.index < tile.sites.size

def HasBel (d : Device) (b : BelId) : Prop :=
  ∃ tt, d.tileType b.tile = .ok tt ∧ b.index < tt.bels.size

def HasMember (d : Device) (w : TileWire) : Prop :=
  ∃ tt, d.tileType w.tile = .ok tt ∧ w.index < tt.wires.size

def HasPip (d : Device) (p : PipId) : Prop :=
  ∃ tt, d.tileType p.tile = .ok tt ∧ p.index < tt.pips.size

/-- A wire of a tile, or a node of the node table. -/
def HasWire (d : Device) : WireId → Prop
  | .tile t i => d.HasMember ⟨t, i⟩
  | .node n => n < d.record.nodes.size

def HasIdent (d : Device) (i : Ident) : Prop := i < d.ids.size

/-- The sides of the grid and the number of its tiles are signed words. -/
structure FitsGrid (d : Device) : Prop where
  width : d.record.width < 2147483648
  height : d.record.height < 2147483648
  tiles : d.tileCount < 2147483648

/-- A name for each identifier that the record may use. -/
def Named (d : Device) : Prop := d.record.idLimit ≤ d.ids.size

/-! ## Tiles -/

theorem valid (d : Device) : d.record.Valid := d.db.valid

/-- A tile in range has an entry and a type, which fit each other. -/
structure TileEntry (d : Device) (t : Nat) (tile : Tile) (tt : TileType) : Prop where
  found : d.tile t = .ok tile
  typed : d.tileType t = .ok tt
  fits : tile.Valid d.record tt
  valid : tt.Valid d.record

theorem exists_tileEntry (h : d.HasTile t) : ∃ tile tt, d.TileEntry t tile tt := by
  obtain ⟨tile, found, member⟩ := answers_fetch h
  obtain ⟨tt, typed, fits⟩ := d.valid.tiles tile member
  have type : d.tileType t = .ok tt := by
    have entry : d.tile t = .ok tile := found
    rw [tileType, entry]
    exact fetch_eq_ok_iff.2 typed
  exact ⟨tile, tt, found, type, fits, d.valid.tileTypes tt (Array.mem_of_getElem? typed)⟩

theorem hasTile_of_tileType {tt : TileType} (h : d.tileType t = .ok tt) : d.HasTile t := by
  obtain ⟨tile, found, -⟩ := bind_eq_ok_iff.1 h
  exact lt_size_of_fetch found

theorem tileEntry_of_tileType {tt : TileType} (h : d.tileType t = .ok tt) :
    ∃ tile, d.TileEntry t tile tt := by
  obtain ⟨tile, tt', entry⟩ := exists_tileEntry (hasTile_of_tileType h)
  obtain rfl : tt' = tt := Except.ok.inj (entry.typed.symm.trans h)
  exact ⟨tile, entry⟩

theorem answers_tile (h : d.HasTile t) : Answers (d.tile t) fun _ => True :=
  (answers_fetch h).mono fun _ _ => trivial

theorem answers_tileType (h : d.HasTile t) :
    Answers (d.tileType t) fun tt => ∃ tile, d.TileEntry t tile tt := by
  obtain ⟨tile, tt, entry⟩ := exists_tileEntry h
  exact ⟨tt, entry.typed, tile, entry⟩

theorem answers_tileName (h : d.HasTile t) : Answers (d.tileName t) fun _ => True :=
  (answers_tile h).map fun _ _ => trivial

theorem answers_tileTypeName (hd : d.Named) (h : d.HasTile t) :
    Answers (d.tileTypeName t) d.HasIdent :=
  (answers_tileType h).map fun _ ⟨_, entry⟩ => Nat.lt_of_lt_of_le entry.valid.typeName hd

theorem answers_tileTimingIndex (h : d.HasTile t) :
    Answers (d.tileTimingIndex t) (∀ i ∈ ·, i < d.record.timingTables.size) :=
  (answers_tileType h).map fun _ ⟨_, entry⟩ => entry.valid.timingIndex

theorem answers_tileBelCount (h : d.HasTile t) :
    Answers (d.tileBelCount t) fun n => ∀ i < n, d.HasBel ⟨t, i⟩ :=
  (answers_tileType h).map fun tt ⟨_, entry⟩ _ hi => ⟨tt, entry.typed, hi⟩

theorem answers_tileBels (h : d.HasTile t) : Answers (d.tileBels t) (∀ b ∈ ·, d.HasBel b) := by
  refine (answers_tileBelCount h).map fun n hn b hb => ?_
  obtain ⟨i, hi, rfl⟩ := List.mem_map.1 hb
  exact hn i (List.mem_range.1 hi)

theorem answers_bels : Answers d.bels (∀ b ∈ ·, d.HasBel b) := by
  have each : Answers ((List.range d.tileCount).mapM d.tileBels) (∀ bs ∈ ·, ∀ b ∈ bs, d.HasBel b) :=
    answers_mapM fun t ht => answers_tileBels (List.mem_range.1 ht)
  refine each.map fun bss hbss b hb => ?_
  obtain ⟨bs, hbs, hb⟩ := List.mem_flatten.1 hb
  exact hbss bs hbs b hb

/-! ## The grid -/

theorem hasTile_of_tileAt (hg : d.FitsGrid) {x y : Int} (h : d.tileAt x y = some t) :
    d.HasTile t := by
  have width : d.width = d.record.width := signed_of_lt hg.width
  have height : d.height = d.record.height := signed_of_lt hg.height
  unfold tileAt at h
  rw [width, height] at h
  split at h
  case isTrue => cases h
  case isFalse inside =>
    obtain rfl := Option.some.inj h
    have bound : y * d.record.width + x < d.record.height * d.record.width := by
      have row : y + 1 ≤ d.record.height := by omega
      have := Int.mul_le_mul_of_nonneg_right row (Int.natCast_nonneg d.record.width)
      rw [Int.add_mul] at this
      omega
    have nonneg : 0 ≤ y * d.record.width := Int.mul_nonneg (by omega) (by omega)
    have tiles : d.tileCount = d.record.width * d.record.height := d.valid.grid
    have tiles' : ((d.tileCount : Nat) : Int) = d.record.height * d.record.width := by
      rw [tiles, Nat.mul_comm]
      exact Int.natCast_mul _ _
    unfold HasTile
    omega

theorem tileAt_of_lt (hg : d.FitsGrid) {x y : Nat} (hx : x < d.record.width)
    (hy : y < d.record.height) : d.tileAt x y = some (y * d.record.width + x) := by
  have width : d.width = d.record.width := signed_of_lt hg.width
  have height : d.height = d.record.height := signed_of_lt hg.height
  rw [tileAt, width, height, if_neg (by omega), ← Int.natCast_mul, ← Int.natCast_add]
  rfl

theorem HasTile.width_ne_zero (h : d.HasTile t) : d.record.width ≠ 0 := by
  have inside : t < d.record.width * d.record.height := d.valid.grid ▸ h
  intro none
  rw [none, Nat.zero_mul] at inside
  exact Nat.not_lt_zero t inside

theorem answers_tileXY (hg : d.FitsGrid) (h : d.HasTile t) :
    Answers (d.tileXY t) fun p => d.tileAt p.1 p.2 = some t := by
  have inside : t < d.record.width * d.record.height := d.valid.grid ▸ h
  have columns := h.width_ne_zero
  have left : t % d.record.width < d.record.width := Nat.mod_lt t (Nat.pos_of_ne_zero columns)
  have above : t / d.record.width < d.record.height := Nat.div_lt_of_lt_mul inside
  have point : d.tileXY t =
      .ok (((t % d.record.width : Nat) : Int), ((t / d.record.width : Nat) : Int)) := by
    rw [← signed_of_lt (Nat.lt_trans left hg.width), ← signed_of_lt (Nat.lt_trans above hg.height)]
    exact if_neg columns
  refine ⟨_, point, ?_⟩
  show d.tileAt (t % d.record.width : Nat) (t / d.record.width : Nat) = some t
  rw [tileAt_of_lt hg left above, Nat.div_add_mod']

theorem answers_belsAt (hg : d.FitsGrid) (x y : Int) :
    Answers (d.belsAt x y) (∀ b ∈ ·, d.HasBel b) := by
  unfold belsAt
  split
  case h_1 t ht => exact answers_tileBels (hasTile_of_tileAt hg ht)
  case h_2 => exact answers_ok (by simp)

theorem answers_belByLocation (hg : d.FitsGrid) (l : Loc) :
    Answers (d.belByLocation l) (∀ b ∈ ·, d.HasBel b) := by
  unfold belByLocation
  split
  case h_1 => exact answers_ok (by simp)
  case h_2 t ht =>
    refine (answers_tileType (hasTile_of_tileAt hg ht)).map fun tt ⟨_, entry⟩ b hb => ?_
    obtain ⟨i, found, rfl⟩ := Option.map_eq_some_iff.1 hb
    exact ⟨tt, entry.typed, (Array.findIdx?_eq_some_iff_getElem.1 found).1⟩

/-! ## Sites -/

theorem answers_site {s : SiteId} (h : d.HasSite s) : Answers (d.site s) fun _ => True := by
  obtain ⟨tile, found, inside⟩ := h
  rw [site, found]
  exact (answers_fetch inside).mono fun _ _ => trivial

theorem answers_siteName {s : SiteId} (h : d.HasSite s) : Answers (d.siteName s) fun _ => True :=
  (answers_site h).map fun _ _ => trivial

theorem answers_siteInterXY {s : SiteId} (h : d.HasTile s.tile) :
    Answers (d.siteInterXY s) fun _ => True := (answers_tile h).map fun _ _ => trivial

theorem TileEntry.hasSite {tile : Tile} {tt : TileType} (entry : d.TileEntry t tile tt) {s : Nat}
    (h : s ∈ Check.sitesOf tt) : d.HasSite ⟨t, s⟩ :=
  ⟨tile, entry.found, entry.fits.sites s h⟩

/-! ## Bels -/

structure BelEntry (d : Device) (b : BelId) (info : Bel) : Prop where
  name : info.name < d.record.idLimit
  belType : info.belType < d.record.idLimit
  site : ∀ s ∈ info.site, d.HasSite ⟨b.tile, s⟩
  pins : ∀ p ∈ info.pins, p.port < d.record.idLimit ∧ d.HasMember ⟨b.tile, p.wire⟩

theorem answers_bel {b : BelId} (h : d.HasBel b) : Answers (d.bel b) (d.BelEntry b) := by
  obtain ⟨tt, typed, inside⟩ := h
  obtain ⟨tile, entry⟩ := tileEntry_of_tileType typed
  rw [bel, typed]
  refine (answers_fetch inside).mono fun info member => ?_
  have valid : info.Valid d.record tt := entry.valid.bels info member
  refine ⟨valid.name, valid.belType, fun s hs => ?site, fun p hp => ?pins⟩
  case site =>
    have listed : s ∈ Check.sitesOf tt := by
      simp only [Check.sitesOf, List.mem_append, List.mem_filterMap, Array.mem_toList_iff]
      exact .inl (.inl ⟨info, member, hs⟩)
    exact entry.hasSite listed
  case pins => exact ⟨(valid.pins p hp).1, tt, typed, (valid.pins p hp).2⟩

theorem HasBel.hasTile {b : BelId} (h : d.HasBel b) : d.HasTile b.tile := by
  obtain ⟨tt, typed, -⟩ := h
  exact hasTile_of_tileType typed

theorem answers_belLocation (hg : d.FitsGrid) {b : BelId} (h : d.HasBel b) :
    Answers (d.belLocation b) fun l => d.tileAt l.x l.y = some b.tile :=
  (answers_tileXY hg h.hasTile).bind fun _ hxy => (answers_bel h).map fun _ _ => hxy

theorem answers_belPin? {b : BelId} (h : d.HasBel b) (pin : Ident) :
    Answers (d.belPin? b pin) (∀ p ∈ ·, d.HasMember ⟨b.tile, p.wire⟩) :=
  (answers_bel h).map fun _ entry p hp => (entry.pins p (Array.mem_of_find?_eq_some hp)).2

theorem answers_belPinDir {b : BelId} (h : d.HasBel b) (pin : Ident) :
    Answers (d.belPinDir b pin) fun _ => True := by
  refine (answers_belPin? h pin).bind fun p _ => ?_
  cases p <;> exact answers_ok trivial

theorem answers_belTileType (hd : d.Named) {b : BelId} (h : d.HasBel b) :
    Answers (d.belTileType b) d.HasIdent := answers_tileTypeName hd h.hasTile

theorem answers_belSite {b : BelId} (h : d.HasBel b) : Answers (d.belSite b) fun _ => True := by
  refine (answers_bel h).bind fun info entry => ?_
  cases hs : info.site with
  | none => exact answers_ok trivial
  | some s => exact (answers_site (entry.site s hs)).map fun _ _ => trivial

theorem answers_belSiteName {b : BelId} (h : d.HasBel b) :
    Answers (d.belSiteName b) fun _ => True := (answers_belSite h).map fun _ _ => trivial

theorem answers_belPackagePin {b : BelId} (h : d.HasBel b) :
    Answers (d.belPackagePin b) fun _ => True := (answers_belSite h).map fun _ _ => trivial

/-- A bel with a timing instance, in a tile with a timing table, has a timing record. -/
theorem answers_instanceTiming {b : BelId} (h : d.HasBel b) :
    Answers (d.instanceTiming b) fun found => ∃ tt info, d.tileType b.tile = .ok tt ∧
      d.bel b = .ok info ∧ (found.isSome ↔ tt.timingIndex.isSome ∧ info.timingInst.isSome) := by
  obtain ⟨tt, typed, inside⟩ := h
  obtain ⟨tile, entry⟩ := tileEntry_of_tileType typed
  have info : d.bel b = .ok tt.bels[b.index] := by
    rw [bel, typed]
    exact fetch_of_lt inside
  have valid : tt.bels[b.index].Valid d.record tt := entry.valid.bels _ (Array.getElem_mem inside)
  have table : d.tileTimingIndex b.tile = .ok tt.timingIndex := by
    rw [tileTimingIndex, typed]
    rfl
  rw [instanceTiming, table, info]
  cases ht : tt.timingIndex with
  | none => exact answers_ok ⟨tt, _, typed, rfl, by simp [ht]⟩
  | some t =>
    cases hi : tt.bels[b.index].timingInst with
    | none =>
      simp only [bind, Except.bind, hi]
      exact answers_ok ⟨tt, _, typed, rfl, by simp [hi]⟩
    | some i =>
      have tables : t < d.record.timingTables.size := entry.valid.timingIndex t ht
      have instances : i < d.record.timingTables[t].instances.size := by
        have bound := valid.timingInst i hi
        simpa [ChipRecord.instanceCount, ht, tables] using bound
      simp only [bind, Except.bind, hi]
      refine answers_ok ⟨tt, _, typed, rfl, ?_⟩
      simp [ht, hi, tables, instances]

theorem answers_isLogicTile (hd : d.Named) {b : BelId} (h : d.HasBel b) :
    Answers (d.isLogicTile b) fun _ => True := (answers_belTileType hd h).map fun _ _ => trivial

/-! ## Wires -/

theorem answers_canonicalWire {w : TileWire} (h : d.HasMember w) :
    Answers (d.canonicalWire w) d.HasWire := by
  obtain ⟨tt, typed, inside⟩ := h
  obtain ⟨tile, entry⟩ := tileEntry_of_tileType typed
  rw [canonicalWire, entry.found]
  refine (answers_fetch (entry.fits.wires ▸ inside)).bind fun node member => ?_
  cases node with
  | none => exact answers_ok ⟨tt, typed, inside⟩
  | some n => exact answers_ok (entry.fits.nodes n member)

theorem answers_node {n : Nat} (h : n < d.record.nodes.size) :
    Answers (fetch d.record.nodes n) (Node.Valid d.record) :=
  (answers_fetch h).mono d.valid.nodes

theorem hasMember_of_valid {n : Node} (h : n.Valid d.record) {w : TileWire}
    (hw : w ∈ n.tileWires) : d.HasMember w := by
  obtain ⟨tile, tt, found, typed, inside⟩ := h.members w hw
  have entry : d.tile w.tile = .ok tile := fetch_eq_ok_iff.2 found
  refine ⟨tt, ?_, inside⟩
  rw [tileType, entry]
  exact fetch_eq_ok_iff.2 typed

theorem answers_wireMembers {w : WireId} (h : d.HasWire w) :
    Answers (d.wireMembers w) (∀ m ∈ ·, d.HasMember m) := by
  cases w with
  | tile t i =>
    have member : d.HasMember ⟨t, i⟩ := h
    exact answers_ok (by simpa using member)
  | node n =>
    exact (answers_node h).map fun _ valid m hm =>
      hasMember_of_valid valid (Array.mem_toList_iff.1 hm)

theorem answers_wireMemberCount {w : WireId} (h : d.HasWire w) :
    Answers (d.wireMemberCount w) fun _ => True :=
  (answers_wireMembers h).map fun _ _ => trivial

/-- A node has a first member, since no accepted node is empty. -/
theorem answers_canonicalMember {w : WireId} (h : d.HasWire w) :
    Answers (d.canonicalMember w) d.HasMember := by
  cases w with
  | tile t i => exact answers_ok h
  | node n =>
    exact (answers_node h).bind fun _ valid =>
      (answers_fetch valid.nonempty).mono fun _ member => hasMember_of_valid valid member

structure WireEntry (d : Device) (w : TileWire) (info : Wire) : Prop where
  name : info.name < d.record.idLimit
  intent : info.intent < d.record.idLimit
  uphill : ∀ i ∈ info.uphill, d.HasPip ⟨w.tile, i⟩
  downhill : ∀ i ∈ info.downhill, d.HasPip ⟨w.tile, i⟩
  belPins : ∀ p ∈ info.belPins, d.HasBel ⟨w.tile, p.bel⟩

theorem answers_memberInfo {w : TileWire} (h : d.HasMember w) :
    Answers (d.memberInfo w) (d.WireEntry w) := by
  obtain ⟨tt, typed, inside⟩ := h
  obtain ⟨tile, entry⟩ := tileEntry_of_tileType typed
  rw [memberInfo, typed]
  refine (answers_fetch inside).mono fun info member => ?_
  have valid : info.Valid d.record tt := entry.valid.wires info member
  exact ⟨valid.name, valid.intent, fun i hi => ⟨tt, typed, valid.uphill i hi⟩,
    fun i hi => ⟨tt, typed, valid.downhill i hi⟩, fun p hp => ⟨tt, typed, valid.belPins p hp⟩⟩

theorem answers_wireInfo {w : WireId} (h : d.HasWire w) :
    Answers (d.wireInfo w) fun info => ∃ m, d.WireEntry m info :=
  (answers_canonicalMember h).bind fun m hm =>
    (answers_memberInfo hm).mono fun _ entry => ⟨m, entry⟩

theorem HasMember.hasTile {w : TileWire} (h : d.HasMember w) : d.HasTile w.tile := by
  obtain ⟨tt, typed, -⟩ := h
  exact hasTile_of_tileType typed

theorem answers_wireTile {w : WireId} (h : d.HasWire w) : Answers (d.wireTile w) d.HasTile :=
  (answers_canonicalMember h).map fun _ hm => hm.hasTile

theorem answers_wireIntent {w : WireId} (h : d.HasWire w) :
    Answers (d.wireIntent w) (· < d.record.idLimit) := by
  cases w with
  | tile t i => exact (answers_wireInfo h).map fun _ ⟨_, entry⟩ => entry.intent
  | node n => exact (answers_node h).map fun _ valid => valid.intent

theorem answers_wireSite {w : WireId} (h : d.HasWire w) : Answers (d.wireSite w) fun _ => True :=
  (answers_wireInfo h).map fun _ _ => trivial

theorem answers_pipsAt {list : Wire → Array Nat} {w : WireId} (h : d.HasWire w)
    (hlist : ∀ m info, d.WireEntry m info → ∀ i ∈ list info, d.HasPip ⟨m.tile, i⟩) :
    Answers (d.pipsAt list w) (∀ p ∈ ·, d.HasPip p) := by
  refine (answers_wireMembers h).bind fun members hmembers => ?_
  have each : Answers (members.mapM fun m => do
      return (list (← d.memberInfo m)).toList.map fun i => (⟨m.tile, i⟩ : PipId))
      (∀ pips ∈ ·, ∀ p ∈ pips, d.HasPip p) := by
    refine answers_mapM fun m hm => (answers_memberInfo (hmembers m hm)).map ?_
    intro info entry p hp
    obtain ⟨i, hi, rfl⟩ := List.mem_map.1 hp
    exact hlist m info entry i (Array.mem_toList_iff.1 hi)
  refine each.map fun pipss hpipss p hp => ?_
  obtain ⟨pips, hpips, hp⟩ := List.mem_flatten.1 hp
  exact hpipss pips hpips p hp

theorem answers_pipsUphill {w : WireId} (h : d.HasWire w) :
    Answers (d.pipsUphill w) (∀ p ∈ ·, d.HasPip p) :=
  answers_pipsAt h fun _ _ entry => entry.uphill

theorem answers_pipsDownhill {w : WireId} (h : d.HasWire w) :
    Answers (d.pipsDownhill w) (∀ p ∈ ·, d.HasPip p) :=
  answers_pipsAt h fun _ _ entry => entry.downhill

theorem answers_belPinWire {b : BelId} (h : d.HasBel b) (pin : Ident) :
    Answers (d.belPinWire b pin) (∀ w ∈ ·, d.HasWire w) := by
  refine (answers_belPin? h pin).bind fun p hp => ?_
  cases p with
  | none => exact answers_ok (by simp)
  | some p => exact (answers_canonicalWire (hp p rfl)).map fun _ hw => by simpa using hw

/-! ## Pips -/

structure PipEntry (d : Device) (p : PipId) (info : Pip) : Prop where
  src : d.HasMember ⟨p.tile, info.src⟩
  dst : d.HasMember ⟨p.tile, info.dst⟩
  site : ∀ s ∈ info.site, d.HasSite ⟨p.tile, s⟩
  bel : ∀ b ∈ info.bel, b < d.record.idLimit

theorem answers_pip {p : PipId} (h : d.HasPip p) : Answers (d.pip p) (d.PipEntry p) := by
  obtain ⟨tt, typed, inside⟩ := h
  obtain ⟨tile, entry⟩ := tileEntry_of_tileType typed
  rw [pip, typed]
  refine (answers_fetch inside).mono fun info member => ?_
  have valid : info.Valid d.record tt := entry.valid.pips info member
  refine ⟨⟨tt, typed, valid.src⟩, ⟨tt, typed, valid.dst⟩, fun s hs => ?site, valid.bel⟩
  case site =>
    have listed : s ∈ Check.sitesOf tt := by
      simp only [Check.sitesOf, List.mem_append, List.mem_filterMap, Array.mem_toList_iff]
      exact .inr ⟨info, member, hs⟩
    exact entry.hasSite listed

theorem HasPip.hasTile {p : PipId} (h : d.HasPip p) : d.HasTile p.tile := by
  obtain ⟨tt, typed, -⟩ := h
  exact hasTile_of_tileType typed

theorem answers_pipSrcWire {p : PipId} (h : d.HasPip p) : Answers (d.pipSrcWire p) d.HasWire :=
  (answers_pip h).bind fun _ entry => answers_canonicalWire entry.src

theorem answers_pipDstWire {p : PipId} (h : d.HasPip p) : Answers (d.pipDstWire p) d.HasWire :=
  (answers_pip h).bind fun _ entry => answers_canonicalWire entry.dst

theorem answers_isBlacklisted {p : PipId} (h : d.HasPip p) :
    Answers (d.isBlacklisted p) fun _ => True :=
  (answers_tile h.hasTile).map fun _ _ => trivial

end Device
end Interconnect
