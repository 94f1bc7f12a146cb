import Interconnect.Proofs.Names.Index
import Interconnect.Proofs.Names.Number
/-!
# Names of pips

A pip inside a site is named behind a head of its own by site, bel and driving wire. Any other pip is
named by its tile and by two numbers. A name of the first kind is cut twice from the left, where the
strokes of its last part do no harm. A name of the second kind is cut from the right, and never begins
with the head of the first as long as no tile is named like the head.
-/
namespace Interconnect

/-- What the name of a pip inside a site says of it: the site, the bel and the name of the wire. -/
def Pip.inside? (tt : TileType) (p : Pip) : Option (Nat × Ident × Option Ident) :=
  match p.kind, p.site, p.bel with
  | .siteInternal, some s, some bel => some (s, bel, (tt.wires[p.src]?).map (·.name))
  | _, _, _ => none

theorem Pip.inside?_eq_some_iff {tt : TileType} {p : Pip} {s : Nat} {i : Ident} {j : Option Ident} :
    p.inside? tt = some (s, i, j) ↔ (p.kind = .siteInternal ∧ p.site = some s ∧ p.bel = some i) ∧
      (tt.wires[p.src]?).map (·.name) = j := by
  unfold inside?
  split
  next s' i' hkind hsite hbel => simp [hkind, hsite, hbel, and_assoc]
  next h =>
    refine iff_of_false (by simp) ?_
    intro hp
    obtain ⟨⟨hkind, hsite, hbel⟩, -⟩ := hp
    exact h s i hkind hsite hbel

namespace Device

variable {d : Device} {p : PipId} {t : Nat} {tt : TileType} {owner bel src rest : String}

/-- No two pips of a tile type join the same wires, no two pips inside sites agree in site, bel and
driving wire, and no bel that a pip belongs to has a stroke in its name. -/
structure PipsApart (d : Device) : Prop where
  ends : ∀ tt ∈ d.record.tileTypes, (tt.pips.toList.map fun p => (p.src, p.dst)).Nodup
  inside : ∀ tt ∈ d.record.tileTypes, (tt.pips.toList.filterMap (·.inside? tt)).Nodup
  belStrokes : ∀ tt ∈ d.record.tileTypes, ∀ p ∈ tt.pips, ∀ i ∈ p.bel, ∀ name ∈ d.ids.name? i,
    '/' ∉ name.toList

instance (d : Device) : Decidable d.PipsApart :=
  decidable_of_iff (_ ∧ _ ∧ _)
    ⟨fun ⟨ends, inside, belStrokes⟩ => ⟨ends, inside, belStrokes⟩,
      fun h => ⟨h.ends, h.inside, h.belStrokes⟩⟩

/-! ### The two forms of a name -/

theorem toList_siteForm : (s!"SITEPIP/{owner}/{bel}/{src}").toList =
    sitePipHead ++ (owner.toList ++ '/' :: (bel.toList ++ '/' :: src.toList)) := by
  simp only [String.toList_append, List.append_assoc]
  rfl

theorem sitePipParts?_siteForm (howner : '/' ∉ owner.toList) (hbel : '/' ∉ bel.toList) :
    sitePipParts? (owner.toList ++ '/' :: (bel.toList ++ '/' :: src.toList)) =
      some (owner.toList, bel.toList, src.toList) := by
  rw [sitePipParts?, Text.cutFirst?_append_cons howner]
  simp only [Option.bind_eq_bind, Option.bind_some, Text.cutFirst?_append_cons hbel]
  rfl

theorem pipByName_siteForm (howner : '/' ∉ owner.toList) (hbel : '/' ∉ bel.toList) :
    d.pipByName s!"SITEPIP/{owner}/{bel}/{src}" = d.sitePipByName owner bel src := by
  have hhead : sitePipHead.isPrefixOf (s!"SITEPIP/{owner}/{bel}/{src}").toList = true := by
    rw [toList_siteForm]
    exact List.isPrefixOf_iff_prefix.2 (List.prefix_append ..)
  rw [pipByName, if_pos hhead, toList_siteForm, List.drop_left, sitePipParts?_siteForm howner hbel]
  simp only [String.ofList_toList]

theorem toList_tileForm (m n : Nat) : (s!"{owner}/{m}.{n}").toList =
    owner.toList ++ '/' :: ((toString m).toList ++ '.' :: (toString n).toList) := by
  simp only [String.toList_append, List.append_assoc]
  rfl

theorem tilePipParts?_tileForm {m n : Nat} (hm : m < UInt32.size) (hn : n < UInt32.size) :
    tilePipParts? (owner.toList ++ '/' :: ((toString m).toList ++ '.' :: (toString n).toList)) =
      some (owner.toList, m, n) := by
  have hstroke : '/' ∉ (toString m).toList ++ '.' :: (toString n).toList := by
    rw [List.mem_append, List.mem_cons]
    rintro (hmem | hdot | hmem)
    · exact Text.not_mem_toString (by decide) hmem
    · exact absurd hdot (by decide)
    · exact Text.not_mem_toString (by decide) hmem
  have hdot : '.' ∉ (toString m).toList := Text.not_mem_toString (by decide)
  rw [tilePipParts?, Text.cutLast?_append_cons hstroke]
  simp only [Option.bind_eq_bind, Option.bind_some, Text.cutFirst?_append_cons hdot,
    Text.index?_toString hm, Text.index?_toString hn]
  rfl

/-- A name that begins with the head belongs to a tile that is named like the head. -/
theorem not_head_of_tileForm (howner : '/' ∉ owner.toList) (hne : owner ≠ "SITEPIP")
    (rest : List Char) : sitePipHead.isPrefixOf (owner.toList ++ '/' :: rest) = false := by
  rw [Bool.eq_false_iff]
  intro hhead
  obtain ⟨rest', hrest⟩ := List.isPrefixOf_iff_prefix.1 hhead
  have hcut := Text.cutFirst?_append_cons (b := rest) howner
  have hcut' : Text.cutFirst? '/' (sitePipHead ++ rest') = some ("SITEPIP".toList, rest') :=
    Text.cutFirst?_append_cons (a := "SITEPIP".toList) (by decide)
  rw [← hrest, hcut'] at hcut
  exact hne (String.toList_injective (Prod.mk.inj (Option.some.inj hcut)).1).symm

theorem pipByName_tileForm {m n : Nat} (howner : '/' ∉ owner.toList) (hne : owner ≠ "SITEPIP")
    (hm : m < UInt32.size) (hn : n < UInt32.size) :
    d.pipByName s!"{owner}/{m}.{n}" = d.tilePipByName owner m n := by
  rw [pipByName, toList_tileForm, if_neg (by simp [not_head_of_tileForm howner hne]),
    tilePipParts?_tileForm hm hn]
  simp only [String.ofList_toList]

/-! ### What a lookup finds -/

theorem first_eq {s : SiteId} {isIt : Pip → Query Bool} (test : Pip → Bool) {ps : List Pip}
    (h : ∀ p ∈ ps, isIt p = .ok (test p)) (i : Nat) :
    sitePipByName.first s isIt ps i = .ok ((ps.findIdx? test).map fun k => ⟨s.tile, i + k⟩) := by
  induction ps generalizing i with
  | nil => rfl
  | cons p ps ih =>
    rw [sitePipByName.first, h p (by simp), List.findIdx?_cons]
    cases htest : test p with
    | true => rfl
    | false =>
      have hrest := ih (fun q hq => h q (by simp [hq])) (i + 1)
      simp only [bind, Except.bind, Bool.false_eq_true, if_false, hrest, Option.map_map]
      congr 2
      funext k
      simp only [Function.comp_apply]
      congr 1
      omega

theorem pip_eq_ok_iff (typed : d.tileType p.tile = .ok tt) {info : Pip} :
    d.pip p = .ok info ↔ tt.pips[p.index]? = some info := by
  rw [pip, typed]
  exact fetch_eq_ok_iff

theorem sitePipByName_eq (apart : (tt.pips.toList.filterMap (·.inside? tt)).Nodup)
    (typed : d.tileType p.tile = .ok tt) {info : Pip} (hpip : d.pip p = .ok info) {s : Nat}
    {i j : Ident} (hinside : info.inside? tt = some (s, i, some j))
    (howner : d.siteByName owner = some ⟨p.tile, s⟩) (hbel : d.nameOf i = .ok bel)
    (hsrc : d.nameOf j = .ok src) : d.sitePipByName owner bel src = .ok (some p) := by
  obtain ⟨tile, entry⟩ := tileEntry_of_tileType typed
  rw [sitePipByName, howner, nameOf_eq_ok_iff.1 hbel, nameOf_eq_ok_iff.1 hsrc]
  simp only [typed, bind, Except.bind]
  rw [first_eq fun q => q.inside? tt = some (s, i, some j)]
  · have hentry : tt.pips.toList[p.index]? = some info := by
      rw [Array.getElem?_toList]
      exact (pip_eq_ok_iff typed).1 hpip
    rw [findIdx?_key (fun q : Pip => q.inside? tt) apart hentry hinside, Option.map_some,
      Nat.zero_add]
  · intro q hq
    have hlt : q.src < tt.wires.size := (entry.valid.pips q (Array.mem_toList_iff.1 hq)).src
    simp only [Pip.inside?_eq_some_iff, fetch_of_lt hlt, Array.getElem?_eq_getElem hlt,
      Option.map_some, Option.some.injEq]
    split
    next h => simp [h, pure, Except.pure]
    next h => simp [h]

theorem tilePipByName_eq (apart : (tt.pips.toList.map fun q => (q.src, q.dst)).Nodup)
    (typed : d.tileType p.tile = .ok tt) {info : Pip} (hpip : d.pip p = .ok info)
    (howner : d.tileByName owner = some p.tile) :
    d.tilePipByName owner info.src info.dst = .ok (some p) := by
  have hentry : tt.pips.toList[p.index]? = some info := by
    rw [Array.getElem?_toList]
    exact (pip_eq_ok_iff typed).1 hpip
  have hfirst := findIdx?_key (fun q : Pip => some (q.src, q.dst)) (by simpa using apart) hentry rfl
  have hfind : (tt.pips.findIdx? fun q => q.src = info.src && q.dst = info.dst) = some p.index := by
    simpa only [← List.findIdx?_toArray, Option.some.injEq, Prod.mk.injEq, Bool.decide_and] using hfirst
  rw [tilePipByName, howner]
  simp only [typed, bind, Except.bind, pure, Except.pure, hfind, Option.map_some]

/-! ### What a pip is named -/

/-- A pip is named in the first form if it is inside a site and has both a site and a bel. -/
theorem pipName_of_inside {info : Pip} (hpip : d.pip p = .ok info) {s : Nat} {i : Ident} {wire : Wire}
    (hinside : info.kind = .siteInternal ∧ info.site = some s ∧ info.bel = some i)
    (hwire : d.memberInfo ⟨p.tile, info.src⟩ = .ok wire) (howner : d.siteName ⟨p.tile, s⟩ = .ok owner)
    (hbel : d.nameOf i = .ok bel) (hsrc : d.nameOf wire.name = .ok src) :
    d.pipName p = .ok s!"SITEPIP/{owner}/{bel}/{src}" := by
  obtain ⟨hkind, hs, hb⟩ := hinside
  rw [pipName, hpip]
  simp only [bind, Except.bind, hkind, hs, hb, hwire, howner, hbel, hsrc]
  rfl

theorem hasPip_of_pipName {name : String} (h : d.pipName p = .ok name) : d.HasPip p := by
  obtain ⟨info, hpip, -⟩ := bind_eq_ok_iff.1 h
  obtain ⟨tt, typed, hfetch⟩ := bind_eq_ok_iff.1 hpip
  exact ⟨tt, typed, lt_size_of_fetch hfetch⟩

theorem pipName_of_not_inside {info : Pip} (hpip : d.pip p = .ok info)
    (houtside : info.inside? tt = none) (howner : d.tileName p.tile = .ok owner) :
    d.pipName p = .ok s!"{owner}/{info.src}.{info.dst}" := by
  rw [pipName, hpip]
  simp only [bind, Except.bind]
  split
  next s i hs hb hkind => simp [Pip.inside?, hkind, hs, hb] at houtside
  next => rw [howner]; rfl

end Device

variable {r : ChipRecord} {checksum : ContentHash} {db : ChipDatabase} {d : Device} {p : PipId}

/-- Where tiles and sites have names of their own and pips are apart, every pip is found by its name,
whatever it is and whether or not it has a site and a bel. The wires of a tile are numbered by words of
32 bits. -/
theorem pip_names_resolve (accepted : ChipDatabase.ofRecord r checksum = .ok db)
    (opened : Device.ofDatabase db = .ok (.ok d))
    (words : ∀ tt ∈ r.tileTypes, ∀ p ∈ tt.pips, p.src < UInt32.size ∧ p.dst < UInt32.size)
    (owners : r.OwnersApart) (head : ∀ tile ∈ r.tiles, tile.name ≠ "SITEPIP") (apart : d.PipsApart)
    (hp : d.HasPip p) :
    ∃ name, d.pipName p = .ok name ∧ d.pipByName name = .ok (some p) := by
  obtain rfl := Device.record_of_ofDatabase accepted opened
  have hcat := Device.catalogued_of_ofDatabase opened
  obtain ⟨info, hpip, entry⟩ := Device.answers_pip hp
  obtain ⟨tt, typed, -⟩ := hp
  have htt := Device.mem_tileTypes_of_tileType typed
  have hmem : info ∈ tt.pips := Array.mem_of_getElem? ((Device.pip_eq_ok_iff typed).1 hpip)
  cases hinside : info.inside? tt with
  | some key =>
    obtain ⟨s, i, j⟩ := key
    obtain ⟨hkind, hj⟩ := Pip.inside?_eq_some_iff.1 hinside
    obtain ⟨owner, howner, -⟩ := Device.answers_siteName (entry.site s hkind.2.1)
    obtain ⟨bel, hbel, -⟩ := hcat.named.answers_nameOf (entry.bel i hkind.2.2)
    obtain ⟨wire, hwire, wireEntry⟩ := Device.answers_memberInfo entry.src
    obtain ⟨src, hsrc, -⟩ := hcat.named.answers_nameOf wireEntry.name
    have hj' : j = some wire.name := by
      rw [Device.memberInfo, typed] at hwire
      rw [← hj, fetch_eq_ok_iff.1 hwire, Option.map_some]
    subst hj'
    refine ⟨_, Device.pipName_of_inside hpip hkind hwire howner hbel hsrc, ?_⟩
    obtain ⟨site, hsite, hstroke⟩ := Device.siteName_eq_ok_iff.1 howner
    rw [Device.pipByName_siteForm (hstroke ▸ owners.siteStrokes _ hsite)
      (apart.belStrokes tt htt info hmem i hkind.2.2 bel (fetch_eq_ok_iff.1 hbel))]
    exact Device.sitePipByName_eq (apart.inside tt htt) typed hpip hinside
      ((hcat.siteByName_iff owners.sites).2 howner) hbel hsrc
  | none =>
    obtain ⟨owner, howner, -⟩ := Device.answers_tileName (Device.hasTile_of_tileType typed)
    refine ⟨_, Device.pipName_of_not_inside hpip hinside howner, ?_⟩
    obtain ⟨tile, htile, rfl⟩ := Device.tileName_eq_ok_iff.1 howner
    have hlisted := Array.mem_of_getElem? htile
    obtain ⟨hsrc, hdst⟩ := words tt htt info hmem
    rw [Device.pipByName_tileForm (owners.tileStrokes tile hlisted) (head tile hlisted) hsrc hdst]
    exact Device.tilePipByName_eq (apart.ends tt htt) typed hpip
      ((hcat.tileByName_iff owners.tiles).2 howner)

/-! A tile with a site, and two pips inside the site: one that belongs to a bel and is driven by a wire
with a stroke in its name, and one that belongs to none. -/

def sliceRecord : ChipRecord where
  name := "xcvu"
  generator := ""
  width := 1
  height := 1
  knownIdCount := Known.count
  extraIds := #["AFF", "IN/0", "AQ"]
  tileTypes := #[{
    typeName := 0
    wires := #[⟨Known.count + 1, 0, none, #[1], #[0], #[]⟩,
      ⟨Known.count + 2, 0, none, #[0], #[1], #[]⟩]
    pips := #[⟨0, 1, some 0, some Known.count, .siteInternal, none⟩,
      ⟨1, 0, some 0, none, .siteInternal, none⟩] }]
  tiles := #[⟨"T", 0, #[⟨"S", "", "", (0, 0), none⟩], #[none, none]⟩]
  nodes := #[]
  timing := none

theorem pip_names_resolve_slice : ∃ db d, ChipDatabase.ofRecord sliceRecord ⟨[]⟩ = .ok db ∧
    Device.ofDatabase db = .ok (.ok d) ∧
    (∀ tt ∈ sliceRecord.tileTypes, ∀ p ∈ tt.pips, p.src < UInt32.size ∧ p.dst < UInt32.size) ∧
    sliceRecord.OwnersApart ∧ (∀ tile ∈ sliceRecord.tiles, tile.name ≠ "SITEPIP") ∧ d.PipsApart ∧
    d.HasPip ⟨0, 0⟩ ∧ d.pipName ⟨0, 0⟩ = .ok "SITEPIP/S/AFF/IN/0" ∧
    d.pipByName "SITEPIP/S/AFF/IN/0" = .ok (some ⟨0, 0⟩) ∧
    d.HasPip ⟨0, 1⟩ ∧ d.pipName ⟨0, 1⟩ = .ok "T/1.0" ∧ d.pipByName "T/1.0" = .ok (some ⟨0, 1⟩) := by
  have accepted : ChipDatabase.ofRecord sliceRecord ⟨[]⟩ = .ok ⟨sliceRecord, ⟨[]⟩, rfl⟩ := rfl
  have opens : (do
      let opened ← Device.ofDatabase ⟨sliceRecord, ⟨[]⟩, rfl⟩
      return opened.toOption.map fun d => decide (d.PipsApart ∧
        d.pipName ⟨0, 0⟩ = .ok "SITEPIP/S/AFF/IN/0" ∧ d.pipName ⟨0, 1⟩ = .ok "T/1.0")) =
      Except.ok (some true) := by decide +kernel
  obtain ⟨d, opened, hcheck⟩ := Device.exists_of_check opens
  obtain ⟨apart, hname, hname'⟩ := of_decide_eq_true hcheck
  have words : ∀ tt ∈ sliceRecord.tileTypes, ∀ p ∈ tt.pips,
      p.src < UInt32.size ∧ p.dst < UInt32.size := by decide +kernel
  have owners : sliceRecord.OwnersApart := by constructor <;> decide +kernel
  have head : ∀ tile ∈ sliceRecord.tiles, tile.name ≠ "SITEPIP" := by decide +kernel
  have inside : d.HasPip ⟨0, 0⟩ := Device.hasPip_of_pipName hname
  have inside' : d.HasPip ⟨0, 1⟩ := Device.hasPip_of_pipName hname'
  obtain ⟨name, hn, hfound⟩ := pip_names_resolve accepted opened words owners head apart inside
  obtain ⟨name', hn', hfound'⟩ := pip_names_resolve accepted opened words owners head apart inside'
  obtain rfl := Except.ok.inj (hn.symm.trans hname)
  obtain rfl := Except.ok.inj (hn'.symm.trans hname')
  exact ⟨_, d, accepted, opened, words, owners, head, apart, inside, hname, hfound, inside', hname',
    hfound'⟩

end Interconnect
