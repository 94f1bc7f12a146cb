import Interconnect.Proofs.Device.Member
/-!
# Indexes of names

An opened device finds a tile or a site by name in an index that is filled place by place, where a
later place takes a name from an earlier one. Where names are apart, the indexes and the tables say
the same.
-/
namespace Interconnect

namespace ChipRecord

/-- No two tiles share a name and no two sites do, and none of them has a stroke in its name. -/
structure OwnersApart (r : ChipRecord) : Prop where
  tiles : (r.tiles.toList.map (·.name)).Nodup
  sites : ((Device.sitesOf r).map (·.2.name)).Nodup
  tileStrokes : ∀ tile ∈ r.tiles, '/' ∉ tile.name.toList
  siteStrokes : ∀ x ∈ Device.sitesOf r, '/' ∉ x.2.name.toList

instance (r : ChipRecord) : Decidable r.NamesApart :=
  decidable_of_iff (_ ∧ _ ∧ _)
    ⟨fun ⟨tiles, wires, strokes⟩ => ⟨tiles, wires, strokes⟩, fun h => ⟨h.tiles, h.wires, h.strokes⟩⟩

end ChipRecord

namespace Device

variable {d : Device} {t : Nat} {s : SiteId} {name : String}

/-- A device that has indexes of its tiles and of its sites. -/
structure Catalogued (d : Device) : Prop extends Opened d where
  siteIndex : d.siteIndex = (sitesOf d.record).foldl (fun m x => m.insert x.2.name x.1) ∅

theorem catalogued_of_ofDatabase {db : ChipDatabase} (h : ofDatabase db = .ok (.ok d)) :
    d.Catalogued := by
  obtain ⟨ids, blacklist, hids, rfl⟩ := eq_of_ofDatabase h
  exact ⟨⟨hids, rfl⟩, rfl⟩

theorem indexed_of_ofDatabase {db : ChipDatabase} (h : ofDatabase db = .ok (.ok d)) :
    d.Indexed := by
  obtain ⟨ids, blacklist, -, rfl⟩ := eq_of_ofDatabase h
  exact indexed_of_tables rfl rfl rfl

/-! ### Identifiers -/

theorem nameOf_eq_ok_iff {i : Ident} : d.nameOf i = .ok name ↔ d.ids.find? name = some i := by
  rw [nameOf, IdentTable.resolve, fetch_eq_ok_iff]
  exact IdentTable.find?_eq_some_iff.symm

/-! ### Tiles -/

theorem tileName_eq_ok_iff : d.tileName t = .ok name ↔
    ∃ tile, d.record.tiles[t]? = some tile ∧ tile.name = name := by
  simp only [tileName, tile, bind_eq_ok_iff, fetch_eq_ok_iff, pure, Except.pure, Except.ok.injEq]

/-- What the index of tiles finds for a name is a tile of that name, whatever the names. -/
theorem Opened.tileName_of_tileByName (h : d.Opened) (found : d.tileByName name = some t) :
    d.tileName t = .ok name := by
  rw [tileByName, h.tileIndex] at found
  rcases getElem?_foldl_insert (fun x : Tile × Nat => x.1.name) Prod.snd found with
    ⟨⟨tile, i⟩, hx, rfl, rfl⟩ | none
  case inl =>
    have htile := List.mem_zipIdx_iff_getElem?.1 hx
    rw [Array.getElem?_toList] at htile
    exact tileName_eq_ok_iff.2 ⟨tile, htile, rfl⟩
  case inr => simp at none

theorem Opened.tileByName_iff (h : d.Opened) (apart : (d.record.tiles.toList.map (·.name)).Nodup) :
    d.tileByName name = some t ↔ d.tileName t = .ok name := by
  refine ⟨h.tileName_of_tileByName, ?_⟩
  intro hname
  obtain ⟨tile, htile, rfl⟩ := tileName_eq_ok_iff.1 hname
  exact tileByName_of_names h apart htile

/-! ### Sites -/

theorem siteName_eq_ok_iff : d.siteName s = .ok name ↔
    ∃ site, (s, site) ∈ sitesOf d.record ∧ site.name = name := by
  simp only [siteName, site, tile, bind_eq_ok_iff, fetch_eq_ok_iff, pure, Except.pure,
    Except.ok.injEq, mem_sitesOf_iff]

theorem Catalogued.siteName_of_siteByName (h : d.Catalogued) (found : d.siteByName name = some s) :
    d.siteName s = .ok name := by
  rw [siteByName, h.siteIndex] at found
  rcases getElem?_foldl_insert (fun x : SiteId × Site => x.2.name) Prod.fst found with
    ⟨⟨id, site⟩, hx, rfl, rfl⟩ | none
  case inl => exact siteName_eq_ok_iff.2 ⟨site, hx, rfl⟩
  case inr => simp at none

theorem Catalogued.siteByName_iff (h : d.Catalogued) (apart : ((sitesOf d.record).map (·.2.name)).Nodup) :
    d.siteByName name = some s ↔ d.siteName s = .ok name := by
  refine ⟨h.siteName_of_siteByName, ?_⟩
  intro hname
  obtain ⟨site, hmem, rfl⟩ := siteName_eq_ok_iff.1 hname
  rw [siteByName, h.siteIndex]
  exact getElem?_foldl_insert_of_nodup (fun x : SiteId × Site => x.2.name) Prod.fst apart hmem

end Device
end Interconnect
