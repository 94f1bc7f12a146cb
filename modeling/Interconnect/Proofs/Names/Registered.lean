import Interconnect.Proofs.Names.Index
/-!
# Names registered later

The table of identifiers only grows, and the record of a device uses none but those that the table had
when the device was opened. A name that is registered afterwards is therefore the name of nothing on the
chip: a lookup that got no number for it before, and gets one now, still finds no bel, wire or pip.
-/
namespace Interconnect

namespace IdentTable

variable {t t' t'' : IdentTable} {name : String} {i : Ident}

/-- All names of a table stand in another at their numbers, and further names only behind them. -/
def Grows (t t' : IdentTable) : Prop := t.names.toList <+: t'.names.toList

theorem Grows.trans (h : t.Grows t') (h' : t'.Grows t'') : t.Grows t'' := List.IsPrefix.trans h h'

theorem Grows.size_le (h : t.Grows t') : t.size ≤ t'.size := by
  simpa [size] using List.IsPrefix.length_le h

theorem Grows.name? (h : t.Grows t') (hname : t.name? i = some name) : t'.name? i = some name := by
  obtain ⟨hlt, rfl⟩ := Array.getElem?_eq_some_iff.1 hname
  rw [IdentTable.name?, ← Array.getElem?_toList, List.prefix_iff_getElem?.1 h i (by simpa using hlt)]
  simp

theorem Grows.find? (h : t.Grows t') (hfind : t.find? name = some i) : t'.find? name = some i :=
  find?_eq_some_iff.2 (h.name? (find?_eq_some_iff.1 hfind))

theorem Grows.size_le_of_find? (h : t.Grows t') (hnew : t.find? name = none)
    (hfind : t'.find? name = some i) : t.size ≤ i := by
  by_contra hbelow
  have hlt : i < t.names.size := Nat.not_le.1 hbelow
  have hold : t.name? i = some t.names[i] := Array.getElem?_eq_getElem hlt
  have hsame := h.name? hold
  rw [find?_eq_some_iff.1 hfind] at hsame
  rw [← Option.some.inj hsame] at hold
  rw [find?_eq_some_iff.2 hold] at hnew
  cases hnew

/-- A name has the number in a larger table that it had, or a number behind all that it could have had. -/
theorem Grows.find?_cases (h : t.Grows t') (name : String) : t'.find? name = t.find? name ∨
    t.find? name = none ∧ ∃ i, t'.find? name = some i ∧ t.size ≤ i := by
  cases hfind : t.find? name with
  | some i => exact .inl (h.find? hfind)
  | none =>
    cases hfind' : t'.find? name with
    | none => exact .inl rfl
    | some i => exact .inr ⟨rfl, i, rfl, h.size_le_of_find? hfind hfind'⟩

end IdentTable

namespace ChipDatabase

variable {db : ChipDatabase} {ids t t' : IdentTable} {names : List String}

theorem names_of_register (h : register t names = .ok t') :
    t'.names.toList = t.names.toList ++ names := by
  induction names generalizing t with
  | nil =>
    obtain rfl := Except.ok.inj h
    simp
  | cons name names ih =>
    rw [register] at h
    split at h
    case h_1 => cases h
    case h_2 fresh =>
      rw [ih h, IdentTable.names_intern_of_find?_eq_none fresh]
      simp

theorem names_of_identTable (h : db.identTable = .ok ids) :
    ids.names.toList = Known.names ++ db.record.extraIds.toList :=
  (names_of_register h).trans (List.nil_append _)

theorem exists_identTable_iff :
    (∃ ids, db.identTable = .ok ids) ↔ (Known.names ++ db.record.extraIds.toList).Nodup := by
  constructor
  · intro h
    obtain ⟨ids, hids⟩ := h
    rw [← names_of_identTable hids]
    exact ids.names_nodup
  · intro h
    exact ⟨_, identTable_eq h⟩

end ChipDatabase

namespace Device

variable {d d' d'' : Device} {name : String} {names : List String} {t : Nat} {i : Ident}

/-- Registers names one after another, and answers their numbers. -/
def internAll (d : Device) : List String → List Ident × Device
  | [] => ([], d)
  | name :: names =>
    let (i, d) := d.intern name
    let (is, d) := d.internAll names
    (i :: is, d)

/-- A device that differs from another at most in names registered behind those of the other. -/
structure Grown (d d' : Device) : Prop where
  rest : d' = { d with ids := d'.ids }
  names : d.ids.Grows d'.ids

theorem Grown.exists_ids (h : d.Grown d') : ∃ ids, d' = { d with ids } ∧ d.ids.Grows ids :=
  ⟨d'.ids, h.rest, h.names⟩

theorem Grown.trans (h : d.Grown d') (h' : d'.Grown d'') : d.Grown d'' :=
  ⟨by rw [h'.rest, h.rest], h.names.trans h'.names⟩

theorem grown_intern (d : Device) (name : String) : d.Grown (d.intern name).2 :=
  ⟨rfl, IdentTable.names_prefix_intern d.ids name⟩

theorem grown_internAll (d : Device) (names : List String) : d.Grown (d.internAll names).2 := by
  induction names generalizing d with
  | nil => exact ⟨rfl, List.prefix_refl _⟩
  | cons name names ih => exact (grown_intern d name).trans (ih _)

theorem Grown.named (h : d.Grown d') (hn : d.Named) : d'.Named := by
  rw [h.rest]
  exact Nat.le_trans hn h.names.size_le

theorem Grown.indexed (h : d.Grown d') (hi : d.Indexed) : d'.Indexed := by
  rw [h.rest]
  exact ⟨hi.tile, hi.site, hi.pinSite⟩

/-! ### Numbers -/

theorem nameOf_internAll (d : Device) (names : List String) :
    List.Forall₂ (fun name i => (d.internAll names).2.nameOf i = .ok name) names
      (d.internAll names).1 := by
  induction names generalizing d with
  | nil => exact .nil
  | cons name names ih =>
    refine .cons ?_ (ih _)
    have hfirst := IdentTable.find?_intern d.ids name
    exact nameOf_eq_ok_iff.2 ((grown_internAll (d.intern name).2 names).names.find? hfirst)

/-- The names that are added are the new ones, in the order of their first registration. -/
theorem exists_added (d : Device) (names : List String) : ∃ added : List String,
    added.Sublist names ∧ (d.internAll names).2.ids.names.toList = d.ids.names.toList ++ added := by
  induction names generalizing d with
  | nil => exact ⟨[], .slnil, (List.append_nil _).symm⟩
  | cons name names ih =>
    obtain ⟨added, hsub, hadded⟩ := ih (d.intern name).2
    cases hfind : d.ids.find? name with
    | some i =>
      refine ⟨added, hsub.cons name, hadded.trans ?_⟩
      rw [intern, IdentTable.intern_of_find? hfind]
    | none =>
      refine ⟨name :: added, hsub.cons_cons name, hadded.trans ?_⟩
      rw [intern, IdentTable.names_intern_of_find?_eq_none hfind]
      simp

/-! ### Lookups

A number that the record does not use finds nothing, which is also the answer for a name without a
number. -/

section
variable (hi : d.record.idLimit ≤ i)
include hi

theorem findBel_of_unused (ht : d.HasTile t) (inPlace : Bel → Bool) : (do
      let bels := (← d.tileType t).bels
      return (bels.findIdx? fun b => b.name = i && inPlace b).map fun k => (⟨t, k⟩ : BelId)) =
    Except.ok none := by
  obtain ⟨tile, tt, entry⟩ := exists_tileEntry ht
  have hnone : (tt.bels.findIdx? fun b => b.name = i && inPlace b) = none := by
    rw [Array.findIdx?_eq_none_iff]
    intro b hb
    have hlt := (entry.valid.bels b hb).name
    have hne : b.name ≠ i := Nat.ne_of_lt (Nat.lt_of_lt_of_le hlt hi)
    simp [hne]
  simp only [entry.typed, bind, Except.bind, pure, Except.pure, hnone, Option.map_none]

theorem findWire_of_unused {tt : TileType} (typed : d.tileType t = .ok tt) :
    (tt.wires.findIdx? fun w => w.name = i) = none := by
  obtain ⟨tile, entry⟩ := tileEntry_of_tileType typed
  rw [Array.findIdx?_eq_none_iff]
  intro w hw
  have hlt := (entry.valid.wires w hw).name
  have hne : w.name ≠ i := Nat.ne_of_lt (Nat.lt_of_lt_of_le hlt hi)
  simp [hne]

end

theorem first_of_none {s : SiteId} {isIt : Pip → Query Bool} {ps : List Pip}
    (h : ∀ p ∈ ps, isIt p = .ok false) (k : Nat) : sitePipByName.first s isIt ps k = .ok none := by
  induction ps generalizing k with
  | nil => rfl
  | cons p ps ih =>
    rw [sitePipByName.first, h p (by simp)]
    exact ih (fun q hq => h q (by simp [hq])) (k + 1)

/-- No pip of a site has a bel or a driving wire whose number the record does not use. -/
theorem findSitePip_of_unused {s : SiteId} (hs : d.HasTile s.tile) {bel src : Ident}
    (h : d.record.idLimit ≤ bel ∨ d.record.idLimit ≤ src) : (do
      let tt ← d.tileType s.tile
      let isIt (p : Pip) : Query Bool :=
        if p.kind = .siteInternal ∧ p.site = some s.index ∧ p.bel = some bel then do
          return (← fetch tt.wires p.src).name = src
        else .ok false
      sitePipByName.first s isIt tt.pips.toList 0) = Except.ok none := by
  obtain ⟨tile, tt, entry⟩ := exists_tileEntry hs
  simp only [entry.typed, bind, Except.bind]
  apply first_of_none
  intro p hp
  have valid := entry.valid.pips p (Array.mem_toList_iff.1 hp)
  have hlt := valid.src
  split
  case isFalse => rfl
  case isTrue hpip =>
    rcases h with hbel | hsrc
    · exact absurd hbel (Nat.not_le.2 (valid.bel bel hpip.2.2))
    · have hname := (entry.valid.wires _ (Array.getElem_mem hlt)).name
      have hne : tt.wires[p.src].name ≠ src := Nat.ne_of_lt (Nat.lt_of_lt_of_le hname hsrc)
      simp [fetch_of_lt hlt, hne, pure, Except.pure]

section
variable (d : Device) (ids : IdentTable)

theorem tileByName_ids : ({ d with ids } : Device).tileByName name = d.tileByName name := rfl

theorem siteByName_ids : ({ d with ids } : Device).siteByName name = d.siteByName name := rfl

theorem tileType_ids : ({ d with ids } : Device).tileType t = d.tileType t := rfl

theorem canonicalWire_ids {m : TileWire} :
    ({ d with ids } : Device).canonicalWire m = d.canonicalWire m := rfl

end

/-! The number of a name in the larger table is what it was, or new and unused. -/

variable (h : d.Grown d') (hn : d.Named) (hi : d.Indexed)
include h hn hi

theorem Grown.belByName (name : String) : d'.belByName name = d.belByName name := by
  obtain ⟨ids, rfl, grows⟩ := h.exists_ids
  simp only [Device.belByName]
  cases Text.cutFirst? '/' name.toList with
  | none => rfl
  | some parts =>
    obtain ⟨owner, own⟩ := parts
    dsimp only
    rcases grows.find?_cases (String.ofList own) with hsame | ⟨hnone, i, hsome, hnew⟩
    · rw [hsame]
      rfl
    · have hunused := Nat.le_trans hn hnew
      simp only [hnone, hsome, siteByName_ids, tileByName_ids, tileType_ids]
      split
      · next s hs => exact findBel_of_unused hunused (hi.site _ s hs).hasTile _
      · split
        · next t ht => exact findBel_of_unused hunused (hi.tile _ t ht) _
        · rfl

theorem Grown.wireByName (name : String) : d'.wireByName name = d.wireByName name := by
  obtain ⟨ids, rfl, grows⟩ := h.exists_ids
  simp only [Device.wireByName]
  cases Text.cutFirst? '/' name.toList with
  | none => rfl
  | some parts =>
    obtain ⟨owner, own⟩ := parts
    dsimp only
    rcases grows.find?_cases (String.ofList own) with hsame | ⟨hnone, i, hsome, hnew⟩
    · rw [hsame]
      rfl
    · simp only [hnone, hsome, tileByName_ids, tileType_ids, canonicalWire_ids]
      cases ht : d.tileByName (String.ofList owner) with
      | none => rfl
      | some t =>
        obtain ⟨tt, typed, -⟩ := answers_tileType (hi.tile _ t ht)
        simp only [typed, bind, Except.bind, findWire_of_unused (Nat.le_trans hn hnew) typed]
        rfl

theorem Grown.sitePipByName (site bel src : String) :
    d'.sitePipByName site bel src = d.sitePipByName site bel src := by
  obtain ⟨ids, rfl, grows⟩ := h.exists_ids
  simp only [Device.sitePipByName, siteByName_ids, tileType_ids]
  cases hsite : d.siteByName site with
  | none => rfl
  | some s =>
    have hs := (hi.site _ s hsite).hasTile
    rcases grows.find?_cases bel with hbel | ⟨hbel, i, hbel', hbelNew⟩ <;>
      rcases grows.find?_cases src with hsrc | ⟨hsrc, k, hsrc', hsrcNew⟩
    · rw [hbel, hsrc]
    · rw [hbel, hsrc, hsrc']
      cases d.ids.find? bel with
      | none => rfl
      | some b => exact findSitePip_of_unused hs (.inr (Nat.le_trans hn hsrcNew))
    · rw [hbel, hbel', hsrc]
      cases d.ids.find? src with
      | none => rfl
      | some w => exact findSitePip_of_unused hs (.inl (Nat.le_trans hn hbelNew))
    · rw [hbel, hbel', hsrc']
      exact findSitePip_of_unused hs (.inl (Nat.le_trans hn hbelNew))

theorem Grown.pipByName (name : String) : d'.pipByName name = d.pipByName name := by
  simp only [Device.pipByName, h.sitePipByName hn hi]
  obtain ⟨ids, rfl, -⟩ := h.exists_ids
  rfl

omit h hn hi

/-- What a device says of its chip and of its earlier names is the same after names were registered, and
of these the new ones are appended. A name has one number, wherever it occurs. -/
structure Registers (d : Device) (names : List String) : Prop where
  appended : ∃ added : List String, added.Sublist names ∧
    (d.internAll names).2.ids.names.toList = d.ids.names.toList ++ added
  named : List.Forall₂ (fun name i => (d.internAll names).2.nameOf i = .ok name) names
    (d.internAll names).1
  numbered : ∀ a ∈ names.zip (d.internAll names).1, ∀ b ∈ names.zip (d.internAll names).1,
    a.1 = b.1 ↔ a.2 = b.2
  nameOf : ∀ i name, d.nameOf i = .ok name → (d.internAll names).2.nameOf i = .ok name
  find? : ∀ name i, d.ids.find? name = some i → (d.internAll names).2.ids.find? name = some i
  belByName : ∀ name, (d.internAll names).2.belByName name = d.belByName name
  wireByName : ∀ name, (d.internAll names).2.wireByName name = d.wireByName name
  pipByName : ∀ name, (d.internAll names).2.pipByName name = d.pipByName name

theorem registers (hn : d.Named) (hi : d.Indexed) (names : List String) : d.Registers names := by
  have h := grown_internAll d names
  have hnamed := nameOf_internAll d names
  constructor
  case appended => exact exists_added d names
  case named => exact hnamed
  case numbered =>
    intro a ha b hb
    have hfst := List.forall₂_zip hnamed ha
    have hsnd := List.forall₂_zip hnamed hb
    constructor
    · intro heq
      rw [nameOf_eq_ok_iff] at hfst hsnd
      rw [heq, hsnd] at hfst
      exact (Option.some.inj hfst).symm
    · intro heq
      rw [heq, hsnd] at hfst
      exact (Except.ok.inj hfst).symm
  case nameOf =>
    intro i name hname
    exact nameOf_eq_ok_iff.2 (h.names.find? (nameOf_eq_ok_iff.1 hname))
  case find? => exact fun name i => h.names.find?
  case belByName => exact h.belByName hn hi
  case wireByName => exact h.wireByName hn hi
  case pipByName => exact h.pipByName hn hi

end Device

variable {r : ChipRecord} {checksum : ContentHash} {db : ChipDatabase}

/-- The identifiers of a chip are the known names and behind them the record's own, each at its place,
as long as no name occurs twice. A device only appends to them, and its answers stay as they are. -/
theorem identifiers_append_only (accepted : ChipDatabase.ofRecord r checksum = .ok db) :
    ((∃ ids, db.identTable = .ok ids) ↔ (Known.names ++ r.extraIds.toList).Nodup) ∧
    (∀ ids, db.identTable = .ok ids → ∀ i name,
      (ids.resolve i = .ok name ↔ (Known.names ++ r.extraIds.toList)[i]? = some name) ∧
      (ids.find? name = some i ↔ (Known.names ++ r.extraIds.toList)[i]? = some name)) ∧
    ∀ d, Device.ofDatabase db = .ok (.ok d) → db.identTable = .ok d.ids ∧
      ∀ earlier later, (d.internAll earlier).2.Registers later := by
  obtain rfl := ChipDatabase.record_of_ofRecord accepted
  refine ⟨ChipDatabase.exists_identTable_iff, ?_, ?_⟩
  · intro ids hids i name
    have hplace : ids.name? i = some name ↔
        (Known.names ++ db.record.extraIds.toList)[i]? = some name := by
      rw [← ChipDatabase.names_of_identTable hids, Array.getElem?_toList]
      rfl
    exact ⟨fetch_eq_ok_iff.trans hplace, IdentTable.find?_eq_some_iff.trans hplace⟩
  · intro d opened
    obtain ⟨same, hopened⟩ := Device.opened_of_ofDatabase opened
    refine ⟨same ▸ hopened.ids, fun earlier later => ?_⟩
    have h := Device.grown_internAll d earlier
    exact Device.registers (h.named hopened.named) (h.indexed (Device.indexed_of_ofDatabase opened)) later

/-- A name that was registered once, then again with two others, one of them a name of the chip. -/
theorem identifiers_append_only_span : ∃ db d, ChipDatabase.ofRecord spanRecord ⟨[]⟩ = .ok db ∧
    Device.ofDatabase db = .ok (.ok d) ∧ db.identTable = .ok d.ids ∧
    (d.internAll ["NEW"]).2.Registers ["FREQ_REF", "NEW", "NEWER"] := by
  have accepted : ChipDatabase.ofRecord spanRecord ⟨[]⟩ = .ok ⟨spanRecord, ⟨[]⟩, rfl⟩ := rfl
  obtain ⟨d, opened⟩ := @Device.exists_ofDatabase ⟨spanRecord, ⟨[]⟩, rfl⟩
    (Known.nodup_append (by decide) (by decide +kernel))
  obtain ⟨hids, hregisters⟩ := (identifiers_append_only accepted).2.2 d opened
  exact ⟨_, d, accepted, opened, hids, hregisters _ _⟩

end Interconnect
