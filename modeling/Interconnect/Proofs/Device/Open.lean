import Interconnect.Proofs.Device.Identifiers
import Interconnect.Proofs.Device.Lookup
import Std.Data.ExtTreeMap.Lemmas
/-!
# Opened devices answer every question in range

Opening an accepted record meets no fault. On the device that it gives, every question about a
handle in range has an answer, and an answer holds only handles in range.
-/
namespace Interconnect

/-! ## Excluded pips -/

section
variable {r : ChipRecord} {ids : IdentTable}

theorem answers_resolve (hids : r.idLimit ≤ ids.size) {i : Ident} (h : i < r.idLimit) :
    Answers (ids.resolve i) fun _ => True :=
  (answers_fetch (Nat.lt_of_lt_of_le h hids)).mono fun _ _ => trivial

theorem ExclusionRule.answers_wireMatches (hids : r.idLimit ≤ ids.size) {tt : TileType}
    (valid : tt.Valid r) (pattern : String) {wire : Nat} (h : wire < tt.wires.size) :
    Answers (wireMatches ids tt pattern wire) fun _ => True := by
  unfold wireMatches
  split
  case isTrue => exact answers_ok trivial
  case isFalse =>
    exact (answers_fetch h).bind fun w hw =>
      (answers_resolve hids (valid.wires w hw).name).map fun _ _ => trivial

theorem ExclusionRule.answers_excludes (hids : r.idLimit ≤ ids.size) {tt : TileType}
    (valid : tt.Valid r) (rule : ExclusionRule) {pip : Pip} (h : pip ∈ tt.pips) :
    Answers (rule.excludes ids tt pip) fun _ => True := by
  have ends : pip.Valid r tt := valid.pips pip h
  refine (answers_wireMatches hids valid rule.dst ends.dst).bind fun found _ => ?_
  cases found with
  | true => exact answers_wireMatches hids valid rule.src ends.src
  | false => exact answers_ok trivial

theorem Blacklist.answers_ofTileType (hids : r.idLimit ≤ ids.size) {tt : TileType}
    (valid : tt.Valid r) : Answers (ofTileType ids tt) fun _ => True := by
  refine (answers_resolve hids valid.typeName).bind fun typeName _ => ?_
  split
  case h_1 => exact answers_ok trivial
  case h_2 rule _ =>
    have each : Answers (tt.pips.toList.mapM (rule.excludes ids tt)) (∀ b ∈ ·, True) :=
      answers_mapM fun pip hp =>
        ExclusionRule.answers_excludes hids valid rule (Array.mem_toList_iff.1 hp)
    exact each.map fun _ _ => trivial

theorem Blacklist.answers_ofRecord (hids : r.idLimit ≤ ids.size) (valid : r.Valid) :
    Answers (ofRecord ids r) fun _ => True := by
  have each : Answers (r.tileTypes.toList.mapM (ofTileType ids)) (∀ b ∈ ·, True) :=
    answers_mapM fun tt htt => answers_ofTileType hids (valid.tileTypes tt (Array.mem_toList_iff.1 htt))
  exact each.map fun _ _ => trivial

end

namespace Device

/-! ## Indexes -/

theorem getElem?_foldl_insert {α β : Type} (key : α → String) (value : α → β) {xs : List α}
    {m : Std.ExtTreeMap String β} {name : String} {b : β}
    (h : (xs.foldl (fun m x => m.insert (key x) (value x)) m)[name]? = some b) :
    (∃ x ∈ xs, key x = name ∧ value x = b) ∨ m[name]? = some b := by
  induction xs generalizing m with
  | nil => exact .inr h
  | cons x xs ih =>
    rcases ih h with ⟨y, hy, hb⟩ | earlier
    · exact .inl ⟨y, by simp [hy], hb⟩
    · rw [Std.ExtTreeMap.getElem?_insert] at earlier
      split at earlier
      next same => exact .inl ⟨x, by simp, Std.compare_eq_iff_eq.1 same, Option.some.inj earlier⟩
      next => exact .inr earlier

theorem mem_sitesOf_iff {r : ChipRecord} {s : SiteId} {site : Site} : (s, site) ∈ sitesOf r ↔
    ∃ tile, r.tiles[s.tile]? = some tile ∧ tile.sites[s.index]? = some site := by
  simp only [sitesOf, List.mem_flatMap, List.mem_map, Prod.exists, List.mk_mem_zipIdx_iff_getElem?,
    Array.getElem?_toList]
  constructor
  · intro h
    obtain ⟨tile, t, found, site, i, listed, heq⟩ := h
    obtain ⟨rfl, rfl⟩ := Prod.mk.inj heq
    exact ⟨tile, found, listed⟩
  · intro h
    obtain ⟨tile, found, listed⟩ := h
    exact ⟨tile, s.tile, found, site, s.index, listed, rfl⟩

theorem isSome_getElem?_foldl_insert {α β : Type} (key : α → String) (value : α → β) {xs : List α}
    {m : Std.ExtTreeMap String β} {name : String}
    (h : (∃ x ∈ xs, key x = name) ∨ ∃ b, m[name]? = some b) :
    ∃ b, (xs.foldl (fun m x => m.insert (key x) (value x)) m)[name]? = some b := by
  induction xs generalizing m with
  | nil => simpa using h
  | cons x xs ih =>
    apply ih
    by_cases same : key x = name
    · exact .inr ⟨value x, by simp [same]⟩
    · simp only [List.mem_cons, or_and_right, exists_or, exists_eq_left, same, false_or] at h
      simpa [Std.ExtTreeMap.getElem?_insert, same] using h

theorem indexed_of_tables {d : Device}
    (tiles : d.tileIndex = d.record.tiles.toList.zipIdx.foldl (fun m x => m.insert x.1.name x.2) ∅)
    (sites : d.siteIndex = (sitesOf d.record).foldl (fun m x => m.insert x.2.name x.1) ∅)
    (pins : d.pinSites = (sitesOf d.record).foldl (fun m x =>
      if isPackagePin x.2.pin then m.insert x.2.pin x.2.name else m) ∅) : d.Indexed := by
  refine ⟨?tile, ?site, ?pinSite⟩
  case tile =>
    intro name t h
    rw [tileByName, tiles] at h
    rcases getElem?_foldl_insert (fun x : Tile × Nat => x.1.name) Prod.snd h with ⟨⟨tile, i⟩, hx, -, rfl⟩ | none
    case inl =>
      have found := List.mem_zipIdx_iff_getElem?.1 hx
      rw [Array.getElem?_toList] at found
      exact (Array.getElem?_eq_some_iff.1 found).1
    case inr => simp at none
  case site =>
    intro name s h
    rw [siteByName, sites] at h
    rcases getElem?_foldl_insert (fun x : SiteId × Site => x.2.name) Prod.fst h with ⟨⟨id, site⟩, hx, -, rfl⟩ | none
    case inl =>
      obtain ⟨tile, found, listed⟩ := mem_sitesOf_iff.1 hx
      exact ⟨tile, fetch_eq_ok_iff.2 found, (Array.getElem?_eq_some_iff.1 listed).1⟩
    case inr => simp at none
  case pinSite =>
    intro pin name h
    rw [packagePinSite, pins, ← List.foldl_filter] at h
    rcases getElem?_foldl_insert (fun x : SiteId × Site => x.2.pin) (·.2.name) h with ⟨x, hx, -, rfl⟩ | none
    case inl =>
      have listed : x ∈ sitesOf d.record := (List.mem_filter.1 hx).1
      rw [siteByName, sites]
      exact isSome_getElem?_foldl_insert (fun x : SiteId × Site => x.2.name) Prod.fst (.inl ⟨x, listed, rfl⟩)
    case inr => simp at none

/-- Opening a database meets no fault. The device that it gives has all its names, and only a table with a
name twice is refused. -/
theorem answers_ofDatabase (db : ChipDatabase) : Answers (ofDatabase db) fun opened =>
    (∀ d, opened = .ok d → d.db = db ∧ d.Named ∧ d.Indexed) ∧
      ∀ e, opened = .error e → db.identTable = .error e := by
  unfold ofDatabase
  cases hids : db.identTable with
  | error e =>
    refine answers_ok ⟨nofun, ?_⟩
    rintro _ ⟨⟩
    rfl
  | ok ids =>
    have names : db.record.idLimit ≤ ids.size :=
      Nat.le_of_eq (ChipDatabase.size_of_identTable hids).symm
    dsimp only
    split
    case h_1 =>
      refine (Blacklist.answers_ofRecord names db.valid).bind fun excluded _ =>
        answers_ok ⟨fun d hd => ?_, nofun⟩
      obtain rfl := Except.ok.inj hd
      exact ⟨rfl, names, indexed_of_tables rfl rfl rfl⟩
    case h_2 =>
      refine answers_ok ⟨fun d hd => ?_, nofun⟩
      obtain rfl := Except.ok.inj hd
      exact ⟨rfl, names, indexed_of_tables rfl rfl rfl⟩

theorem exists_ofDatabase {db : ChipDatabase}
    (h : (Known.names ++ db.record.extraIds.toList).Nodup) : ∃ d, ofDatabase db = .ok (.ok d) := by
  obtain ⟨opened, hopened, -, refused⟩ := answers_ofDatabase db
  cases opened with
  | ok d => exact ⟨d, hopened⟩
  | error e => cases (refused e rfl).symm.trans (ChipDatabase.identTable_eq h)

/-! ## The answers -/

structure TileAnswers (d : Device) (t : Nat) : Prop where
  name : Answers (d.tileName t) fun _ => True
  typeName : Answers (d.tileTypeName t) d.HasIdent
  timingIndex : Answers (d.tileTimingIndex t) (∀ i ∈ ·, i < d.record.timingTables.size)
  coordinate : Answers (d.tileXY t) fun p => d.tileAt p.1 p.2 = some t
  belCount : Answers (d.tileBelCount t) fun n => ∀ i < n, d.HasBel ⟨t, i⟩
  bels : Answers (d.tileBels t) (∀ b ∈ ·, d.HasBel b)
  clockRow : Answers (d.hclkForIoi t) fun r => ∀ row, r = .ok row → d.HasTile row

structure SiteAnswers (d : Device) (s : SiteId) : Prop where
  name : Answers (d.siteName s) fun _ => True
  interconnect : Answers (d.siteInterXY s) fun _ => True

structure BelAnswers (d : Device) (b : BelId) : Prop where
  entry : Answers (d.bel b) (d.BelEntry b)
  name : Answers (d.belName b) fun _ => True
  location : Answers (d.belLocation b) fun l => d.tileAt l.x l.y = some b.tile
  pinDir : ∀ pin, Answers (d.belPinDir b pin) fun _ => True
  pinWire : ∀ pin, Answers (d.belPinWire b pin) (∀ w ∈ ·, d.HasWire w)
  tileType : Answers (d.belTileType b) d.HasIdent
  siteName : Answers (d.belSiteName b) fun _ => True
  packagePin : Answers (d.belPackagePin b) fun _ => True
  timing : Answers (d.instanceTiming b) fun found => ∃ tt info, d.tileType b.tile = .ok tt ∧
    d.bel b = .ok info ∧ (found.isSome ↔ tt.timingIndex.isSome ∧ info.timingInst.isSome)
  isLogic : Answers (d.isLogicTile b) fun _ => True
  clockRow : Answers (d.hclkForIob b) fun r => ∀ row, r = .ok row → d.HasTile row

structure MemberAnswers (d : Device) (w : TileWire) : Prop where
  entry : Answers (d.memberInfo w) (d.WireEntry w)
  name : Answers (d.memberName w) fun _ => True
  handle : Answers (d.canonicalWire w) d.HasWire

structure WireAnswers (d : Device) (w : WireId) : Prop where
  name : Answers (d.wireName w) fun _ => True
  members : Answers (d.wireMembers w) (∀ m ∈ ·, d.HasMember m)
  memberCount : Answers (d.wireMemberCount w) fun _ => True
  canonicalMember : Answers (d.canonicalMember w) d.HasMember
  entry : Answers (d.wireInfo w) fun info => ∃ m, d.WireEntry m info
  tile : Answers (d.wireTile w) d.HasTile
  intent : Answers (d.wireIntent w) d.HasIdent
  site : Answers (d.wireSite w) fun _ => True
  uphill : Answers (d.pipsUphill w) (∀ p ∈ ·, d.HasPip p)
  downhill : Answers (d.pipsDownhill w) (∀ p ∈ ·, d.HasPip p)

structure PipAnswers (d : Device) (p : PipId) : Prop where
  entry : Answers (d.pip p) (d.PipEntry p)
  name : Answers (d.pipName p) fun _ => True
  src : Answers (d.pipSrcWire p) d.HasWire
  dst : Answers (d.pipDstWire p) d.HasWire
  isBlacklisted : Answers (d.isBlacklisted p) fun _ => True

/-- What a device is asked about its grid as a whole, and by name. -/
structure LookupAnswers (d : Device) : Prop where
  bels : Answers d.bels (∀ b ∈ ·, d.HasBel b)
  tileAt : ∀ x y t, d.tileAt x y = some t → d.HasTile t
  belsAt : ∀ x y, Answers (d.belsAt x y) (∀ b ∈ ·, d.HasBel b)
  belByLocation : ∀ l, Answers (d.belByLocation l) (∀ b ∈ ·, d.HasBel b)
  indexes : d.Indexed
  belByName : ∀ name, Answers (d.belByName name) (∀ b ∈ ·, d.HasBel b)
  wireByName : ∀ name, Answers (d.wireByName name) (∀ w ∈ ·, d.HasWire w)
  pipByName : ∀ name, Answers (d.pipByName name) (∀ p ∈ ·, d.HasPip p)

/-- Each question about a handle in range has an answer with handles in range. -/
structure AnswersInRange (d : Device) : Prop where
  ident : ∀ i, d.HasIdent i → Answers (d.nameOf i) fun _ => True
  tile : ∀ t, d.HasTile t → d.TileAnswers t
  site : ∀ s, d.HasSite s → d.SiteAnswers s
  bel : ∀ b, d.HasBel b → d.BelAnswers b
  member : ∀ w, d.HasMember w → d.MemberAnswers w
  wire : ∀ w, d.HasWire w → d.WireAnswers w
  pip : ∀ p, d.HasPip p → d.PipAnswers p
  lookup : d.LookupAnswers

theorem answersInRange {d : Device} (hg : d.FitsGrid) (hn : d.Named) (hi : d.Indexed) :
    d.AnswersInRange where
  ident _ h := answers_nameOf h
  tile _ h :=
    { name := answers_tileName h
      typeName := answers_tileTypeName hn h
      timingIndex := answers_tileTimingIndex h
      coordinate := answers_tileXY hg h
      belCount := answers_tileBelCount h
      bels := answers_tileBels h
      clockRow := answers_hclkForIoi hn h }
  site _ h :=
    { name := answers_siteName h
      interconnect := answers_siteInterXY h.hasTile }
  bel _ h :=
    { entry := answers_bel h
      name := answers_belName hn h
      location := answers_belLocation hg h
      pinDir := answers_belPinDir h
      pinWire := answers_belPinWire h
      tileType := answers_belTileType hn h
      siteName := answers_belSiteName h
      packagePin := answers_belPackagePin h
      timing := answers_instanceTiming h
      isLogic := answers_isLogicTile hn h
      clockRow := answers_hclkForIob hn h }
  member _ h :=
    { entry := answers_memberInfo h
      name := answers_memberName hn h
      handle := answers_canonicalWire h }
  wire _ h :=
    { name := answers_wireName hn h
      members := answers_wireMembers h
      memberCount := answers_wireMemberCount h
      canonicalMember := answers_canonicalMember h
      entry := answers_wireInfo h
      tile := answers_wireTile h
      intent := (answers_wireIntent h).mono fun _ hi => Nat.lt_of_lt_of_le hi hn
      site := answers_wireSite h
      uphill := answers_pipsUphill h
      downhill := answers_pipsDownhill h }
  pip _ h :=
    { entry := answers_pip h
      name := answers_pipName hn h
      src := answers_pipSrcWire h
      dst := answers_pipDstWire h
      isBlacklisted := answers_isBlacklisted h }
  lookup :=
    { bels := answers_bels
      tileAt := fun _ _ _ => hasTile_of_tileAt hg
      belsAt := answers_belsAt hg
      belByLocation := answers_belByLocation hg
      indexes := hi
      belByName := answers_belByName hi
      wireByName := answers_wireByName hi
      pipByName := answers_pipByName hi }

end Device

variable {r : ChipRecord} {checksum : ContentHash} {db : ChipDatabase}

/-- A record that is accepted, on a grid whose sides and tiles are counted by signed words, is opened
without a fault, and the device answers in range. -/
theorem accepted_answers (accepted : ChipDatabase.ofRecord r checksum = .ok db)
    (width : r.width < 2147483648) (height : r.height < 2147483648)
    (tiles : r.tiles.size < 2147483648) :
    (∃ opened, Device.ofDatabase db = .ok opened) ∧
      ∀ d, Device.ofDatabase db = .ok (.ok d) → d.AnswersInRange := by
  obtain ⟨opened, opens, spec, -⟩ := Device.answers_ofDatabase db
  refine ⟨⟨opened, opens⟩, fun d hd => ?_⟩
  obtain ⟨same, hn, hi⟩ := spec d (Except.ok.inj (opens.symm.trans hd))
  have record : d.record = r := by
    rw [Device.record, same, ChipDatabase.record_of_ofRecord accepted]
  have hg : d.FitsGrid := by
    refine ⟨record ▸ width, record ▸ height, ?_⟩
    rw [Device.tileCount, record]
    exact tiles
  exact Device.answersInRange hg hn hi

/-! Two tiles whose wires 1 are one node, driven by an excluded pip in each of them. -/

def spanRecord : ChipRecord where
  name := "xc7a"
  generator := ""
  width := 2
  height := 1
  knownIdCount := Known.count
  extraIds := #["HCLK_CMT", "FREQ_REF"]
  tileTypes := #[{
    typeName := Known.count
    bels := #[⟨0, 0, 0, some 0, false, #[⟨Known.ident "O", 0, .output⟩], some 0⟩]
    wires := #[⟨0, 0, none, #[], #[0], #[⟨0, Known.ident "O"⟩]⟩,
      ⟨Known.count + 1, 0, none, #[0], #[], #[]⟩]
    pips := #[⟨0, 1, none, none, .tile, none⟩]
    timingIndex := some 0 }]
  tiles := #[⟨"T0", 0, #[⟨"S0", "", "P0", (0, 0), none⟩], #[none, some 0]⟩,
    ⟨"T1", 0, #[⟨"S1", "", "P1", (1, 0), none⟩], #[none, some 0]⟩]
  nodes := #[⟨0, #[⟨0, 1⟩, ⟨1, 1⟩]⟩]
  timing := some ⟨#[⟨#[⟨#[]⟩]⟩]⟩

theorem accepted_answers_span : ∃ db d, ChipDatabase.ofRecord spanRecord ⟨[]⟩ = .ok db ∧
    Device.ofDatabase db = .ok (.ok d) ∧ d.HasWire (.node 0) ∧
    Answers (d.pipsUphill (.node 0)) (∀ p ∈ ·, d.HasPip p) := by
  have accepted : ChipDatabase.ofRecord spanRecord ⟨[]⟩ = .ok ⟨spanRecord, ⟨[]⟩, rfl⟩ := rfl
  have opens : (do
      let opened ← Device.ofDatabase ⟨spanRecord, ⟨[]⟩, rfl⟩
      return opened.toOption.map fun d => decide (0 < d.record.nodes.size)) =
        Except.ok (some true) := by decide +kernel
  obtain ⟨opened, hopened, opens⟩ := bind_eq_ok_iff.1 opens
  cases opened with
  | error e => cases opens
  | ok d =>
    have inside : 0 < d.record.nodes.size := by
      have node := Option.some.inj (Except.ok.inj opens)
      simpa using node
    have answers := (accepted_answers accepted (by decide) (by decide) (by decide)).2 d hopened
    exact ⟨_, d, accepted, hopened, inside, (answers.wire (.node 0) inside).uphill⟩

end Interconnect
