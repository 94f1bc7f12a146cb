import Interconnect.Proofs.Names.Index
/-!
# Names of bels

A bel is named by its site, or by its tile if it has none. A lookup asks for a site of that name first,
and for a tile only then; in a site it heeds only the bels of the site, in a tile every bel. A bel in a
site is therefore found by its name. A bel without one may stand in the shadow of a site that has the
name of its tile, or of an earlier bel of the tile that has its own name but lies in a site.
-/
namespace Interconnect

namespace Device

variable {d : Device} {b : BelId} {t : Nat} {i : Ident} {owner rest name : String}

/-- The names of all bels, one by one, are all different. -/
def BelNamesApart (d : Device) : Prop :=
  ∃ bs names, d.bels = .ok bs ∧ bs.mapM d.belName = .ok names ∧ names.Nodup

/-- A bel without a site whose tile has the name of a site, or has an earlier bel of the same name. -/
def Shadowed (d : Device) (b : BelId) : Prop :=
  ∃ info tile, d.bel b = .ok info ∧ info.site = none ∧ d.tileName b.tile = .ok tile ∧
    ((∃ s, d.siteName s = .ok tile) ∨
      ∃ i other, i < b.index ∧ d.bel ⟨b.tile, i⟩ = .ok other ∧ other.name = info.name)

/-! ### What a name is made of -/

def ownerName (d : Device) (t : Nat) (site : Option Nat) : Query String :=
  match site with
  | some s => d.siteName ⟨t, s⟩
  | none => d.tileName t

theorem belName_eq_ok_iff : d.belName b = .ok name ↔ ∃ info owner rest, d.bel b = .ok info ∧
    d.ownerName b.tile info.site = .ok owner ∧ d.nameOf info.name = .ok rest ∧
      name = s!"{owner}/{rest}" := by
  have hname : d.belName b = (do
      let info ← d.bel b
      return s!"{← d.ownerName b.tile info.site}/{← d.nameOf info.name}") := by
    rw [belName]
    congr 1
    funext info
    cases info.site <;> rfl
  simp only [hname, bind_eq_ok_iff, pure, Except.pure, Except.ok.injEq]
  constructor
  · intro h
    obtain ⟨info, hinfo, owner, howner, rest, hrest, rfl⟩ := h
    exact ⟨info, owner, rest, hinfo, howner, hrest, rfl⟩
  · intro h
    obtain ⟨info, owner, rest, hinfo, howner, hrest, rfl⟩ := h
    exact ⟨info, hinfo, owner, howner, rest, hrest, rfl⟩

theorem hasBel_of_belName (h : d.belName b = .ok name) : d.HasBel b := by
  obtain ⟨info, -, -, hinfo, -⟩ := belName_eq_ok_iff.1 h
  exact hasBel_of_bel hinfo

theorem mem_bels (hb : d.HasBel b) {bs : List BelId} (h : d.bels = .ok bs) : b ∈ bs := by
  obtain ⟨lists, hlists, h⟩ := bind_eq_ok_iff.1 h
  obtain rfl := Except.ok.inj h
  obtain ⟨tt, typed, inside⟩ := hb
  have hrange : (List.range d.tileCount)[b.tile]? = some b.tile :=
    List.getElem?_range (hasTile_of_tileType typed)
  rcases getElem?_of_mapM hlists b.tile with ⟨hnone, -⟩ | ⟨t, here, ht, hhere, hbels⟩
  · rw [hnone] at hrange
    cases hrange
  · obtain rfl : t = b.tile := Option.some.inj (ht.symm.trans hrange)
    refine List.mem_flatten.2 ⟨here, List.mem_of_getElem? hhere, ?_⟩
    rw [tileBels, tileBelCount, typed] at hbels
    obtain rfl := Except.ok.inj hbels
    exact List.mem_map.2 ⟨b.index, List.mem_range.2 inside, rfl⟩

theorem BelNamesApart.eq (h : d.BelNamesApart) {b' : BelId} (hb : d.belName b = .ok name)
    (hb' : d.belName b' = .ok name) : b = b' := by
  obtain ⟨bs, names, hbs, hnames, apart⟩ := h
  have place {x : BelId} (hx : d.belName x = .ok name) :
      ∃ k : Nat, bs[k]? = some x ∧ names[k]? = some name := by
    obtain ⟨k, hk⟩ := List.mem_iff_getElem?.1 (mem_bels (hasBel_of_belName hx) hbs)
    rcases getElem?_of_mapM hnames k with ⟨hnone, -⟩ | ⟨y, s, hy, hs, hname⟩
    · rw [hnone] at hk
      cases hk
    · obtain rfl := Option.some.inj (hy.symm.trans hk)
      obtain rfl := Except.ok.inj (hname.symm.trans hx)
      exact ⟨k, hk, hs⟩
  obtain ⟨k, hk, hn⟩ := place hb
  obtain ⟨k', hk', hn'⟩ := place hb'
  obtain rfl : k = k' :=
    (List.getElem?_inj (List.getElem?_eq_some_iff.1 hn).1 apart).1 (hn.trans hn'.symm)
  exact Option.some.inj (hk.symm.trans hk')

/-! ### What a lookup finds -/

/-- A bel of a tile that passes a test that no earlier bel of the tile passes. -/
structure FirstBel (d : Device) (t : Nat) (test : Bel → Bool) (b : BelId) : Prop where
  tile : b.tile = t
  passes : ∃ info, d.bel b = .ok info ∧ test info = true
  first : ∀ i other, i < b.index → d.bel ⟨t, i⟩ = .ok other → test other = false

theorem bel_eq_ok_iff {tt : TileType} (typed : d.tileType t = .ok tt) {i : Nat} {info : Bel} :
    d.bel ⟨t, i⟩ = .ok info ↔ tt.bels[i]? = some info := by
  rw [bel, typed]
  exact fetch_eq_ok_iff

theorem firstBel_iff {test : Bel → Bool} : (do
      let bels := (← d.tileType t).bels
      return (bels.findIdx? test).map fun i => (⟨t, i⟩ : BelId)) = Except.ok (some b) ↔
    d.FirstBel t test b := by
  constructor
  · intro h
    obtain ⟨tt, typed, h⟩ := bind_eq_ok_iff.1 h
    obtain ⟨k, hk, rfl⟩ := Option.map_eq_some_iff.1 (Except.ok.inj h)
    obtain ⟨hlt, hpass, hfirst⟩ := Array.findIdx?_eq_some_iff_getElem.1 hk
    refine ⟨rfl, ⟨_, (bel_eq_ok_iff typed).2 (Array.getElem?_eq_getElem hlt), hpass⟩, ?_⟩
    intro i other hi hother
    obtain ⟨_, rfl⟩ := Array.getElem?_eq_some_iff.1 ((bel_eq_ok_iff typed).1 hother)
    simpa using hfirst i hi
  · intro h
    obtain ⟨rfl, ⟨info, hinfo, hpass⟩, hfirst⟩ := h
    obtain ⟨tt, typed, -⟩ := bind_eq_ok_iff.1 hinfo
    obtain ⟨hlt, rfl⟩ := Array.getElem?_eq_some_iff.1 ((bel_eq_ok_iff typed).1 hinfo)
    have hk : tt.bels.findIdx? test = some b.index := by
      refine Array.findIdx?_eq_some_iff_getElem.2 ⟨hlt, hpass, ?_⟩
      intro i hi
      have hin : i < tt.bels.size := Nat.lt_trans hi hlt
      have hfail := hfirst i _ hi ((bel_eq_ok_iff typed).2 (Array.getElem?_eq_getElem hin))
      simp [hfail]
    rw [typed]
    simp only [bind, Except.bind, pure, Except.pure, hk, Option.map_some]

theorem belByName_owned (h : '/' ∉ owner.toList) (hi : d.nameOf i = .ok rest) :
    d.belByName s!"{owner}/{rest}" = .ok (some b) ↔
      (∃ s, d.siteByName owner = some s ∧
        d.FirstBel s.tile (fun x => x.name = i && x.site = some s.index) b) ∨
      d.siteByName owner = none ∧ ∃ t, d.tileByName owner = some t ∧
        d.FirstBel t (fun x => x.name = i && true) b := by
  rw [belByName, cutFirst?_owned rest h]
  simp only [String.ofList_toList, nameOf_eq_ok_iff.1 hi]
  cases hs : d.siteByName owner with
  | some s => simpa using firstBel_iff
  | none =>
    cases ht : d.tileByName owner with
    | some t => simpa using firstBel_iff
    | none => simp

theorem belByName_of_site (h : d.Catalogued) (owners : d.record.OwnersApart)
    (apart : d.BelNamesApart) {info : Bel} {s : Nat} (hinfo : d.bel b = .ok info)
    (hsite : info.site = some s) (howner : d.siteName ⟨b.tile, s⟩ = .ok owner)
    (hrest : d.nameOf info.name = .ok rest) :
    d.belByName s!"{owner}/{rest}" = .ok (some b) := by
  obtain ⟨site, hmem, hstroke⟩ := siteName_eq_ok_iff.1 howner
  have named {x : BelId} {other : Bel} (hx : d.bel x = .ok other) (htile : x.tile = b.tile)
      (hs : other.site = some s) (hn : other.name = info.name) :
      d.belName x = .ok s!"{owner}/{rest}" := by
    refine belName_eq_ok_iff.2 ⟨other, owner, rest, hx, ?_, hn ▸ hrest, rfl⟩
    rw [hs, htile]
    exact howner
  refine (belByName_owned (hstroke ▸ owners.siteStrokes _ hmem) hrest).2 (.inl ⟨⟨b.tile, s⟩, ?_, ?_⟩)
  · exact (h.siteByName_iff owners.sites).2 howner
  · refine ⟨rfl, ⟨info, hinfo, by simp [hsite]⟩, ?_⟩
    intro i other hi hother
    -- an earlier bel that passes would have the name of the bel
    rw [Bool.eq_false_iff]
    intro hpass
    simp only [Bool.and_eq_true, decide_eq_true_eq] at hpass
    have heq := apart.eq (named hinfo rfl hsite rfl) (named hother rfl hpass.2 hpass.1)
    rw [heq] at hi
    exact Nat.lt_irrefl _ hi

/-- The name of a bel without a site finds the bel exactly if nothing shadows it. -/
theorem belByName_of_tile (h : d.Catalogued) (owners : d.record.OwnersApart) {info : Bel}
    (hinfo : d.bel b = .ok info) (hsite : info.site = none) (howner : d.tileName b.tile = .ok owner)
    (hrest : d.nameOf info.name = .ok rest) :
    d.belByName s!"{owner}/{rest}" = .ok (some b) ↔ ¬ d.Shadowed b := by
  obtain ⟨tile, htile, hstroke⟩ := tileName_eq_ok_iff.1 howner
  rw [belByName_owned (hstroke ▸ owners.tileStrokes _ (Array.mem_of_getElem? htile)) hrest]
  constructor
  · intro found hshadowed
    obtain ⟨info', tile', hinfo', -, htile', hshadow⟩ := hshadowed
    obtain rfl := Except.ok.inj (hinfo'.symm.trans hinfo)
    obtain rfl := Except.ok.inj (htile'.symm.trans howner)
    rcases found with ⟨s, -, hfirst⟩ | ⟨hnone, t, -, hfirst⟩
    · obtain ⟨found, hfound, hpass⟩ := hfirst.passes
      obtain rfl := Except.ok.inj (hfound.symm.trans hinfo)
      simp [hsite] at hpass
    · obtain rfl := hfirst.tile
      rcases hshadow with ⟨s, hs⟩ | ⟨i, other, hi, hother, hsame⟩
      · rw [(h.siteByName_iff owners.sites).2 hs] at hnone
        cases hnone
      · simpa [hsame] using hfirst.first i other hi hother
  · intro hclear
    have hnone : d.siteByName owner = none := by
      cases hs : d.siteByName owner with
      | none => rfl
      | some s =>
        exact absurd ⟨info, owner, hinfo, hsite, howner, .inl ⟨s, h.siteName_of_siteByName hs⟩⟩ hclear
    refine .inr ⟨hnone, b.tile, (h.tileByName_iff owners.tiles).2 howner, rfl,
      ⟨info, hinfo, by simp⟩, ?_⟩
    intro i other hi hother
    rw [Bool.eq_false_iff]
    intro hpass
    have hsame : other.name = info.name := by simpa using hpass
    exact hclear ⟨info, owner, hinfo, hsite, howner, .inr ⟨i, other, hi, hother, hsame⟩⟩

theorem not_shadowed_of_site {info : Bel} {s : Nat} (hinfo : d.bel b = .ok info)
    (hsite : info.site = some s) : ¬ d.Shadowed b := by
  intro h
  obtain ⟨info', -, hinfo', hnone, -⟩ := h
  obtain rfl := Except.ok.inj (hinfo'.symm.trans hinfo)
  rw [hsite] at hnone
  cases hnone

end Device

variable {r : ChipRecord} {checksum : ContentHash} {db : ChipDatabase} {d : Device} {b : BelId}

/-- Where tiles, sites and bels have names of their own, the name of a bel finds the bel exactly if
nothing shadows it, as nothing does a bel in a site. -/
theorem bel_found_iff (accepted : ChipDatabase.ofRecord r checksum = .ok db)
    (opened : Device.ofDatabase db = .ok (.ok d)) (owners : r.OwnersApart) (apart : d.BelNamesApart)
    (hb : d.HasBel b) :
    ∃ name, d.belName b = .ok name ∧ (d.belByName name = .ok (some b) ↔ ¬ d.Shadowed b) := by
  obtain rfl := Device.record_of_ofDatabase accepted opened
  have hcat := Device.catalogued_of_ofDatabase opened
  obtain ⟨name, hname, -⟩ := Device.answers_belName hcat.named hb
  refine ⟨name, hname, ?_⟩
  obtain ⟨info, owner, rest, hinfo, howner, hrest, rfl⟩ := Device.belName_eq_ok_iff.1 hname
  cases hsite : info.site with
  | some s =>
    rw [hsite] at howner
    exact iff_of_true (Device.belByName_of_site hcat owners apart hinfo hsite howner hrest)
      (Device.not_shadowed_of_site hinfo hsite)
  | none =>
    rw [hsite] at howner
    exact Device.belByName_of_tile hcat owners hinfo hsite howner hrest

/-! A tile with a bel in a site and behind it a bel of the same name without one, and a tile that has
the name of its own site. -/

def shadeRecord : ChipRecord where
  name := "xcvu"
  generator := ""
  width := 2
  height := 1
  knownIdCount := Known.count
  extraIds := #["A", "B"]
  tileTypes := #[
    { typeName := 0
      bels := #[⟨Known.count, 0, 0, some 0, false, #[], none⟩,
        ⟨Known.count, 0, 1, none, false, #[], none⟩] },
    { typeName := 0, bels := #[⟨Known.count + 1, 0, 0, none, false, #[], none⟩] }]
  tiles := #[⟨"T", 0, #[⟨"S", "", "", (0, 0), none⟩], #[]⟩,
    ⟨"X", 1, #[⟨"X", "", "", (1, 0), none⟩], #[]⟩]
  nodes := #[]
  timing := none

theorem shadeRecord_opens : ∃ d, Device.ofDatabase ⟨shadeRecord, ⟨[]⟩, rfl⟩ = .ok (.ok d) ∧
    d.BelNamesApart ∧ d.bel ⟨0, 0⟩ = .ok ⟨Known.count, 0, 0, some 0, false, #[], none⟩ ∧
    d.belName ⟨0, 1⟩ = .ok "T/A" ∧ d.belByName "T/A" = .ok (some ⟨0, 0⟩) ∧
    d.belName ⟨1, 0⟩ = .ok "X/B" ∧ d.belByName "X/B" = .ok none := by
  have opens : (do
      let opened ← Device.ofDatabase ⟨shadeRecord, ⟨[]⟩, rfl⟩
      return opened.toOption.map fun d => decide (
        d.bels = .ok [⟨0, 0⟩, ⟨0, 1⟩, ⟨1, 0⟩] ∧ d.belName ⟨0, 0⟩ = .ok "S/A" ∧
        d.bel ⟨0, 0⟩ = .ok ⟨Known.count, 0, 0, some 0, false, #[], none⟩ ∧
        d.belName ⟨0, 1⟩ = .ok "T/A" ∧ d.belByName "T/A" = .ok (some ⟨0, 0⟩) ∧
        d.belName ⟨1, 0⟩ = .ok "X/B" ∧ d.belByName "X/B" = .ok none)) =
      Except.ok (some true) := by decide +kernel
  obtain ⟨d, opened, hcheck⟩ := Device.exists_of_check opens
  obtain ⟨hbels, hfirst, hbel, hsecond, hother, hthird, hnone⟩ := of_decide_eq_true hcheck
  have hnames : [⟨0, 0⟩, ⟨0, 1⟩, ⟨1, 0⟩].mapM d.belName = .ok ["S/A", "T/A", "X/B"] := by
    simp only [List.mapM_cons, List.mapM_nil, hfirst, hsecond, hthird]
    rfl
  exact ⟨d, opened, ⟨_, _, hbels, hnames, by decide⟩, hbel, hsecond, hother, hthird, hnone⟩

theorem shadeRecord_ownersApart : shadeRecord.OwnersApart := by constructor <;> decide +kernel

theorem bel_found_iff_shade : ∃ db d, ChipDatabase.ofRecord shadeRecord ⟨[]⟩ = .ok db ∧
    Device.ofDatabase db = .ok (.ok d) ∧ shadeRecord.OwnersApart ∧ d.BelNamesApart ∧
    d.HasBel ⟨0, 0⟩ ∧ ∃ name, d.belName ⟨0, 0⟩ = .ok name ∧
      d.belByName name = .ok (some ⟨0, 0⟩) := by
  have accepted : ChipDatabase.ofRecord shadeRecord ⟨[]⟩ = .ok ⟨shadeRecord, ⟨[]⟩, rfl⟩ := rfl
  obtain ⟨d, opened, apart, hbel, -⟩ := shadeRecord_opens
  have inside : d.HasBel ⟨0, 0⟩ := Device.hasBel_of_bel hbel
  obtain ⟨name, hname, hfound⟩ := bel_found_iff accepted opened shadeRecord_ownersApart apart inside
  exact ⟨_, d, accepted, opened, shadeRecord_ownersApart, apart, inside, name, hname,
    hfound.2 (Device.not_shadowed_of_site hbel rfl)⟩

/-- Names of bels that are all different need not lead back. Here the name of one bel without a site
finds the bel in the site, and that of the other finds nothing. -/
theorem bel_lost_in_shade : ∃ db d, ChipDatabase.ofRecord shadeRecord ⟨[]⟩ = .ok db ∧
    Device.ofDatabase db = .ok (.ok d) ∧ shadeRecord.OwnersApart ∧ d.BelNamesApart ∧
    d.HasBel ⟨0, 1⟩ ∧ d.belName ⟨0, 1⟩ = .ok "T/A" ∧ d.belByName "T/A" = .ok (some ⟨0, 0⟩) ∧
    d.HasBel ⟨1, 0⟩ ∧ d.belName ⟨1, 0⟩ = .ok "X/B" ∧ d.belByName "X/B" = .ok none := by
  have accepted : ChipDatabase.ofRecord shadeRecord ⟨[]⟩ = .ok ⟨shadeRecord, ⟨[]⟩, rfl⟩ := rfl
  obtain ⟨d, opened, apart, -, hname, hother, hname', hnone⟩ := shadeRecord_opens
  exact ⟨_, d, accepted, opened, shadeRecord_ownersApart, apart, Device.hasBel_of_belName hname,
    hname, hother, Device.hasBel_of_belName hname', hname', hnone⟩

end Interconnect
