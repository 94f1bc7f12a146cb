import Interconnect.Proofs.Names.Index
/-!
# Package pins

An opened device finds the site of a package pin in an index, which leaves out pins whose names begin with a
dot. The pin of a bel is read off the bel's site, whatever its name begins with. Where sites have names and
pins of their own, both ways agree on every pin that is in the index.
-/
namespace Interconnect

/-- No two sites share a name, and no two share a pin, if they have one. -/
structure ChipRecord.SitesApart (r : ChipRecord) : Prop where
  names : ((Device.sitesOf r).map (·.2.name)).Nodup
  pins : (((Device.sitesOf r).map (·.2.pin)).filter (· ≠ "")).Nodup

namespace Device

variable {d : Device} {b : BelId} {site : Site} {pin name : String}

structure Pinned (d : Device) : Prop where
  pinSites : d.pinSites = (sitesOf d.record).foldl (fun m x =>
    if isPackagePin x.2.pin then m.insert x.2.pin x.2.name else m) ∅

theorem pinned_of_ofDatabase {db : ChipDatabase} (h : ofDatabase db = .ok (.ok d)) : d.Pinned := by
  obtain ⟨ids, blacklist, -, rfl⟩ := eq_of_ofDatabase h
  exact ⟨rfl⟩

/-! ### From pins to sites -/

theorem isPackagePin_iff : isPackagePin pin = true ↔ pin ≠ "" ∧ Text.startsWith "." pin = false := by
  simp [isPackagePin]

theorem Pinned.packagePinSite_iff (h : d.Pinned) (apart : d.record.SitesApart) :
    d.packagePinSite pin = some name ↔
      isPackagePin pin = true ∧ ∃ x ∈ sitesOf d.record, x.2.pin = pin ∧ x.2.name = name := by
  rw [packagePinSite, h.pinSites, ← List.foldl_filter]
  constructor
  · intro found
    rcases getElem?_foldl_insert (fun x : SiteId × Site => x.2.pin) (·.2.name) found with
      ⟨x, hx, rfl, rfl⟩ | none
    case inl =>
      obtain ⟨hlisted, hpin⟩ := List.mem_filter.1 hx
      exact ⟨hpin, x, hlisted, rfl, rfl⟩
    case inr => simp at none
  · rintro ⟨hpin, x, hlisted, rfl, rfl⟩
    -- package pins are among those that are not empty
    have hpins : (((sitesOf d.record).filter fun x => isPackagePin x.2.pin).map (·.2.pin)).Nodup := by
      have : ((sitesOf d.record).filter fun x => isPackagePin x.2.pin).map (·.2.pin) =
          ((sitesOf d.record).map (·.2.pin)).filter isPackagePin := by rw [List.filter_map]; rfl
      rw [this]
      refine apart.pins.sublist (List.monotone_filter_right _ fun pin hpin => ?_)
      simpa using (isPackagePin_iff.1 hpin).1
    exact getElem?_foldl_insert_of_nodup (fun x : SiteId × Site => x.2.pin) (·.2.name) hpins
      (List.mem_filter.2 ⟨hlisted, hpin⟩)

/-! ### From bels to pins -/

theorem belSiteName_eq_ok_iff : d.belSiteName b = .ok (some name) ↔
    ∃ site, d.belSite b = .ok (some site) ∧ site.name = name := by
  simp only [belSiteName, bind_eq_ok_iff, pure, Except.pure, Except.ok.injEq, Option.map_eq_some_iff]
  constructor
  · rintro ⟨_, hfound, site, rfl, rfl⟩
    exact ⟨site, hfound, rfl⟩
  · rintro ⟨site, hfound, rfl⟩
    exact ⟨_, hfound, site, rfl, rfl⟩

theorem belPackagePin_eq_ok_iff : d.belPackagePin b = .ok (some pin) ↔
    ∃ site, d.belSite b = .ok (some site) ∧ site.pin = pin ∧ pin ≠ "" := by
  simp only [belPackagePin, bind_eq_ok_iff, pure, Except.pure, Except.ok.injEq,
    Option.filter_eq_some_iff, Option.map_eq_some_iff]
  constructor
  · rintro ⟨_, hfound, ⟨site, rfl, rfl⟩, hpin⟩
    exact ⟨site, hfound, rfl, by simpa using hpin⟩
  · rintro ⟨site, hfound, rfl, hpin⟩
    exact ⟨_, hfound, ⟨site, rfl, rfl⟩, by simpa using hpin⟩

theorem mem_sitesOf_of_belSite (h : d.belSite b = .ok (some site)) :
    ∃ s, (s, site) ∈ sitesOf d.record := by
  obtain ⟨info, -, h⟩ := bind_eq_ok_iff.1 h
  split at h
  · cases Except.ok.inj h
  · next s _ =>
    obtain ⟨site', hsite, h⟩ := bind_eq_ok_iff.1 h
    obtain rfl := Option.some.inj (Except.ok.inj h)
    obtain ⟨tile, htile, hsite⟩ := bind_eq_ok_iff.1 hsite
    exact ⟨⟨b.tile, s⟩, mem_sitesOf_iff.2 ⟨tile, fetch_eq_ok_iff.1 htile, fetch_eq_ok_iff.1 hsite⟩⟩

theorem site_eq_of_name (apart : d.record.SitesApart) {x y : SiteId × Site}
    (hx : x ∈ sitesOf d.record) (hy : y ∈ sitesOf d.record) (hname : x.2.name = y.2.name) : x = y :=
  List.inj_on_of_nodup_map apart.names hx hy hname

end Device

variable {r : ChipRecord} {checksum : ContentHash} {db : ChipDatabase} {d : Device}

/-- Where no two sites share a name or a pin, the pin of a bel leads to the bel's site, unless the pin begins
with a dot and leads nowhere. And the pin that leads to a site is the pin of every bel of the site. -/
theorem package_pins_lead_back (accepted : ChipDatabase.ofRecord r checksum = .ok db)
    (opened : Device.ofDatabase db = .ok (.ok d)) (apart : r.SitesApart) :
    (∀ b pin, d.belPackagePin b = .ok (some pin) → ∃ name, d.belSiteName b = .ok (some name) ∧
      d.packagePinSite pin = if Text.startsWith "." pin then none else some name) ∧
    (∀ pin name, d.packagePinSite pin = some name →
      ∀ b, d.belSiteName b = .ok (some name) → d.belPackagePin b = .ok (some pin)) := by
  obtain rfl := Device.record_of_ofDatabase accepted opened
  have hpinned := Device.pinned_of_ofDatabase opened
  constructor
  · intro b pin hb
    obtain ⟨site, hfound, rfl, hpin⟩ := Device.belPackagePin_eq_ok_iff.1 hb
    obtain ⟨s, hlisted⟩ := Device.mem_sitesOf_of_belSite hfound
    refine ⟨site.name, Device.belSiteName_eq_ok_iff.2 ⟨site, hfound, rfl⟩, ?_⟩
    split
    · next hdot =>
      rw [Option.eq_none_iff_forall_ne_some]
      intro name hname
      have hpackage := ((hpinned.packagePinSite_iff apart).1 hname).1
      rw [(Device.isPackagePin_iff.1 hpackage).2] at hdot
      cases hdot
    · next hdot =>
      exact (hpinned.packagePinSite_iff apart).2
        ⟨Device.isPackagePin_iff.2 ⟨hpin, Bool.eq_false_iff.2 hdot⟩, _, hlisted, rfl, rfl⟩
  · intro pin name hname b hb
    obtain ⟨hpackage, x, hx, rfl, rfl⟩ := (hpinned.packagePinSite_iff apart).1 hname
    obtain ⟨site, hfound, hsite⟩ := Device.belSiteName_eq_ok_iff.1 hb
    obtain ⟨s, hlisted⟩ := Device.mem_sitesOf_of_belSite hfound
    obtain rfl := Device.site_eq_of_name apart hlisted hx hsite
    exact Device.belPackagePin_eq_ok_iff.2 ⟨site, hfound, rfl, (Device.isPackagePin_iff.1 hpackage).1⟩

/-! Two tiles with a bel in a site. The pin of the second site begins with a dot. -/

def bondedRecord : ChipRecord where
  name := "xc7a"
  generator := ""
  width := 2
  height := 1
  knownIdCount := Known.count
  extraIds := #[]
  tileTypes := #[{ typeName := 0, bels := #[⟨Known.ident "PAD", 0, 0, some 0, false, #[], none⟩] }]
  tiles := #[⟨"T0", 0, #[⟨"S0", "IOB33", "E3", (0, 0), none⟩], #[]⟩,
    ⟨"T1", 0, #[⟨"S1", "IOB33", ".NC", (1, 0), none⟩], #[]⟩]
  nodes := #[]
  timing := none

theorem bondedRecord_sitesApart : bondedRecord.SitesApart := by constructor <;> decide +kernel

theorem bondedRecord_opens : ∃ d, Device.ofDatabase ⟨bondedRecord, ⟨[]⟩, rfl⟩ = .ok (.ok d) ∧
    d.belPackagePin ⟨0, 0⟩ = .ok (some "E3") ∧ d.belSiteName ⟨0, 0⟩ = .ok (some "S0") ∧
    d.belPackagePin ⟨1, 0⟩ = .ok (some ".NC") ∧ d.belSiteName ⟨1, 0⟩ = .ok (some "S1") ∧
    d.packagePinSite ".NC" = none := by
  obtain ⟨d, opened⟩ := @Device.exists_ofDatabase ⟨bondedRecord, ⟨[]⟩, rfl⟩
    (by simpa [bondedRecord] using Known.names_nodup)
  -- what is asked here does not depend on the identifiers or on the blacklist
  obtain ⟨ids, blacklist, -, rfl⟩ := Device.eq_of_ofDatabase opened
  exact ⟨_, opened, rfl, rfl, rfl, rfl, rfl⟩

theorem package_pins_lead_back_bonded : ∃ db d, ChipDatabase.ofRecord bondedRecord ⟨[]⟩ = .ok db ∧
    Device.ofDatabase db = .ok (.ok d) ∧ bondedRecord.SitesApart ∧
    d.belPackagePin ⟨0, 0⟩ = .ok (some "E3") ∧ d.packagePinSite "E3" = some "S0" := by
  have accepted : ChipDatabase.ofRecord bondedRecord ⟨[]⟩ = .ok ⟨bondedRecord, ⟨[]⟩, rfl⟩ := rfl
  obtain ⟨d, opened, hpin, hsite, -⟩ := bondedRecord_opens
  obtain ⟨name, hname, hleads⟩ :=
    (package_pins_lead_back accepted opened bondedRecord_sitesApart).1 ⟨0, 0⟩ "E3" hpin
  obtain rfl := Option.some.inj (Except.ok.inj (hsite.symm.trans hname))
  exact ⟨_, d, accepted, opened, bondedRecord_sitesApart, hpin, hleads⟩

/-- A bel whose pin begins with a dot has a site, which the pin does not lead to. -/
theorem dotted_pin_leads_nowhere : ∃ db d, ChipDatabase.ofRecord bondedRecord ⟨[]⟩ = .ok db ∧
    Device.ofDatabase db = .ok (.ok d) ∧ bondedRecord.SitesApart ∧
    d.belPackagePin ⟨1, 0⟩ = .ok (some ".NC") ∧ d.belSiteName ⟨1, 0⟩ = .ok (some "S1") ∧
    d.packagePinSite ".NC" ≠ some "S1" := by
  have accepted : ChipDatabase.ofRecord bondedRecord ⟨[]⟩ = .ok ⟨bondedRecord, ⟨[]⟩, rfl⟩ := rfl
  obtain ⟨d, opened, -, -, hpin, hsite, hnone⟩ := bondedRecord_opens
  refine ⟨_, d, accepted, opened, bondedRecord_sitesApart, hpin, hsite, ?_⟩
  rw [hnone]
  nofun

end Interconnect
