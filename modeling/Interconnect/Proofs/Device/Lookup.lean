import Interconnect.Proofs.Device.Range
/-!
# Names, lookups and clock rows stay in range

Names are put together from identifiers that the record may use, and a lookup of any text at all
answers with a handle in range or with none.
-/
namespace Interconnect.Device

variable {d : Device} {t : Nat}

/-- The indexes of names lead to tiles and sites of the device, and package pins to names of sites. -/
structure Indexed (d : Device) : Prop where
  tile : ∀ name t, d.tileByName name = some t → d.HasTile t
  site : ∀ name s, d.siteByName name = some s → d.HasSite s
  pinSite : ∀ pin name, d.packagePinSite pin = some name → ∃ s, d.siteByName name = some s

theorem HasSite.hasTile {s : SiteId} (h : d.HasSite s) : d.HasTile s.tile := by
  obtain ⟨tile, found, -⟩ := h
  exact lt_size_of_fetch found

/-! ## Names -/

theorem answers_nameOf {i : Ident} (h : d.HasIdent i) : Answers (d.nameOf i) fun _ => True :=
  (answers_fetch h).mono fun _ _ => trivial

theorem Named.answers_nameOf (hd : d.Named) {i : Ident} (h : i < d.record.idLimit) :
    Answers (d.nameOf i) fun _ => True := Device.answers_nameOf (Nat.lt_of_lt_of_le h hd)

theorem answers_belName (hd : d.Named) {b : BelId} (h : d.HasBel b) :
    Answers (d.belName b) fun _ => True := by
  refine (answers_bel h).bind fun info entry => ?_
  cases hs : info.site with
  | none =>
    exact (answers_tileName h.hasTile).bind fun _ _ =>
      (hd.answers_nameOf entry.name).map fun _ _ => trivial
  | some s =>
    exact (answers_siteName (entry.site s hs)).bind fun _ _ =>
      (hd.answers_nameOf entry.name).map fun _ _ => trivial

theorem answers_memberName (hd : d.Named) {w : TileWire} (h : d.HasMember w) :
    Answers (d.memberName w) fun _ => True :=
  (answers_tileName h.hasTile).bind fun _ _ => (answers_memberInfo h).bind fun _ entry =>
    (hd.answers_nameOf entry.name).map fun _ _ => trivial

theorem answers_wireName (hd : d.Named) {w : WireId} (h : d.HasWire w) :
    Answers (d.wireName w) fun _ => True :=
  (answers_canonicalMember h).bind fun _ hm => answers_memberName hd hm

theorem answers_pipName (hd : d.Named) {p : PipId} (h : d.HasPip p) :
    Answers (d.pipName p) fun _ => True := by
  refine (answers_pip h).bind fun info entry => ?_
  split
  case h_1 site bel hs hb _ =>
    exact (answers_memberInfo entry.src).bind fun src hsrc =>
      (answers_siteName (entry.site site hs)).bind fun _ _ =>
        (hd.answers_nameOf (entry.bel bel hb)).bind fun _ _ =>
          (hd.answers_nameOf hsrc.name).map fun _ _ => trivial
  case h_2 =>
    exact (answers_tileName h.hasTile).map fun _ _ => trivial

/-! ## Lookups -/

theorem answers_belByName (hi : d.Indexed) (name : String) :
    Answers (d.belByName name) (∀ b ∈ ·, d.HasBel b) := by
  have find (t : Nat) (ht : d.HasTile t) (inPlace : Bel → Bool) : Answers (do
      let bels := (← d.tileType t).bels
      return (bels.findIdx? inPlace).map fun i => (⟨t, i⟩ : BelId)) (∀ b ∈ ·, d.HasBel b) := by
    refine (answers_tileType ht).map fun tt ⟨_, entry⟩ b hb => ?_
    obtain ⟨i, found, rfl⟩ := Option.map_eq_some_iff.1 hb
    exact ⟨tt, entry.typed, (Array.findIdx?_eq_some_iff_getElem.1 found).1⟩
  have absent : Answers (.ok none : Query (Option BelId)) (∀ b ∈ ·, d.HasBel b) :=
    answers_ok (by simp)
  unfold belByName
  split
  case h_1 => exact absent
  case h_2 =>
    split
    case h_1 => exact absent
    case h_2 =>
      dsimp only
      split
      case h_1 s hs => exact find _ (hi.site _ s hs).hasTile _
      case h_2 =>
        split
        case h_1 t ht => exact find t (hi.tile _ t ht) _
        case h_2 => exact absent

theorem answers_wireByName (hi : d.Indexed) (name : String) :
    Answers (d.wireByName name) (∀ w ∈ ·, d.HasWire w) := by
  have absent : Answers (.ok none : Query (Option WireId)) (∀ w ∈ ·, d.HasWire w) :=
    answers_ok (by simp)
  unfold wireByName
  split
  case h_1 => exact absent
  case h_2 =>
    split
    case h_1 t id ht _ =>
      refine (answers_tileType (hi.tile _ t ht)).bind fun tt ⟨_, entry⟩ => ?_
      split
      case h_1 i found =>
        have inside : i < tt.wires.size := (Array.findIdx?_eq_some_iff_getElem.1 found).1
        exact (answers_canonicalWire ⟨tt, entry.typed, inside⟩).map fun _ hw => by simpa using hw
      case h_2 => exact absent
    case h_2 => exact absent

theorem answers_first (s : SiteId) {tt : TileType} (typed : d.tileType s.tile = .ok tt)
    {isIt : Pip → Query Bool} (ps : List Pip) (i : Nat) (bound : i + ps.length ≤ tt.pips.size)
    (his : ∀ p ∈ ps, Answers (isIt p) fun _ => True) :
    Answers (sitePipByName.first s isIt ps i) (∀ p ∈ ·, d.HasPip p) := by
  induction ps generalizing i with
  | nil => exact answers_ok (by simp)
  | cons p ps ih =>
    rw [List.length_cons] at bound
    refine (his p (by simp)).bind fun found _ => ?_
    cases found with
    | true =>
      have below : i < tt.pips.size := by omega
      have inside : d.HasPip ⟨s.tile, i⟩ := ⟨tt, typed, below⟩
      exact answers_ok (by simpa using inside)
    | false => exact ih (i + 1) (by omega) fun q hq => his q (by simp [hq])

theorem answers_sitePipByName (hi : d.Indexed) (site bel src : String) :
    Answers (d.sitePipByName site bel src) (∀ p ∈ ·, d.HasPip p) := by
  unfold sitePipByName
  split
  case h_1 s bel src hs _ _ =>
    refine (answers_tileType (hi.site _ s hs).hasTile).bind fun tt ⟨_, entry⟩ => ?_
    refine answers_first s entry.typed _ 0 (by simp) fun p hp => ?_
    have valid : p.Valid d.record tt := entry.valid.pips p (Array.mem_toList_iff.1 hp)
    split
    case isTrue => exact (answers_fetch valid.src).map fun _ _ => trivial
    case isFalse => exact answers_ok trivial
  case h_2 => exact answers_ok (by simp)

theorem answers_tilePipByName (hi : d.Indexed) (tile : String) (src dst : Nat) :
    Answers (d.tilePipByName tile src dst) (∀ p ∈ ·, d.HasPip p) := by
  unfold tilePipByName
  split
  case h_1 => exact answers_ok (by simp)
  case h_2 t ht =>
    refine (answers_tileType (hi.tile _ t ht)).map fun tt ⟨_, entry⟩ p hp => ?_
    obtain ⟨i, found, rfl⟩ := Option.map_eq_some_iff.1 hp
    exact ⟨tt, entry.typed, (Array.findIdx?_eq_some_iff_getElem.1 found).1⟩

theorem answers_pipByName (hi : d.Indexed) (name : String) :
    Answers (d.pipByName name) (∀ p ∈ ·, d.HasPip p) := by
  unfold pipByName
  dsimp only
  split
  case isTrue =>
    split
    case h_1 => exact answers_sitePipByName hi ..
    case h_2 => exact answers_ok (by simp)
  case isFalse =>
    split
    case h_1 => exact answers_tilePipByName hi ..
    case h_2 => exact answers_ok (by simp)

/-! ## Clock rows -/

theorem answers_hclkForIoi (hd : d.Named) (h : d.HasTile t) :
    Answers (d.hclkForIoi t) fun r => ∀ row, r = .ok row → d.HasTile row := by
  refine (answers_tileType h).bind fun tt ⟨_, entry⟩ => ?_
  split
  case h_1 => exact (answers_tileName h).map fun _ _ _ hrow => by cases hrow
  case h_2 i found =>
    have inside : i < tt.wires.size := (Array.findIdx?_eq_some_iff_getElem.1 found).1
    refine (answers_canonicalWire ⟨tt, entry.typed, inside⟩).bind fun w hw => ?_
    refine (answers_pipsUphill hw).bind fun pips hpips => ?_
    cases pips with
    | nil => exact (answers_wireName hd hw).map fun _ _ _ hrow => by cases hrow
    | cons p _ =>
      refine answers_ok fun row hrow => ?_
      obtain rfl := Except.ok.inj hrow
      exact (hpips p (by simp)).hasTile

theorem answers_hclkForIob (hd : d.Named) {pad : BelId} (h : d.HasBel pad) :
    Answers (d.hclkForIob pad) fun r => ∀ row, r = .ok row → d.HasTile row := by
  have found (neighbour : Option Nat) {ioi : Nat}
      (hioi : neighbour.filter (· < d.tileCount) = some ioi) :
      Answers (d.hclkForIoi ioi) fun r => ∀ row, r = .ok row → d.HasTile row := by
    have inside : ioi < d.tileCount := by simpa using (Option.filter_eq_some_iff.1 hioi).2
    exact answers_hclkForIoi hd inside
  have absent : Answers
      (do return .error (.noNeighbour (← d.tileName pad.tile)) : Query (Except ClockRowError Nat))
      fun r => ∀ row, r = .ok row → d.HasTile row :=
    (answers_tileName h.hasTile).map fun _ _ _ hrow => by cases hrow
  refine (answers_belTileType hd h).bind fun tt htt => ?_
  refine (answers_nameOf htt).bind fun typeName _ => ?_
  split
  case isTrue =>
    simp only [pure_bind]
    split
    case h_1 ioi hioi => exact found _ hioi
    case h_2 => exact absent
  case isFalse =>
    split
    case isTrue =>
      simp only [pure_bind]
      split
      case h_1 ioi hioi => exact found _ hioi
      case h_2 => exact absent
    case isFalse => exact answers_ok fun _ hrow => by cases hrow

end Interconnect.Device
