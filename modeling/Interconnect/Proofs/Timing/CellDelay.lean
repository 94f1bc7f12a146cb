import Interconnect.Proofs.Device.Member
import Interconnect.Proofs.Ownership.Run
import Interconnect.Proofs.Timing.Recorded
/-!
# Delays through placed cells

A cell on a bel with a timing instance has the delays that were recorded for the instance under the
variant of the cell: its type, or for a lookup table what its place says of it. A half table goes by the
names of its own last input and output.
-/
namespace Interconnect

/-! ### Names and places -/

theorem IdentTable.name?_eq_known_iff {ids : IdentTable} (h : Known.names <+: ids.names.toList)
    {name : String} (hname : name ∈ Known.names) {i : Ident} :
    ids.name? i = some name ↔ i = Known.ident name := by
  have hknown : ids.name? (Known.ident name) = some name := by
    have hget := Known.name?_ident hname
    obtain ⟨rest, hrest⟩ := h
    rw [name?, ← Array.getElem?_toList, ← hrest,
      List.getElem?_append_left (Known.ident_lt_count hname)]
    exact hget
  constructor
  · exact fun hi => eq_of_name? hi hknown
  · rintro rfl
    exact hknown

theorem toNat_signed_emod {n : Nat} (h : n < 4294967296) : (signed n % 4294967296).toNat = n := by
  unfold signed
  rw [Int.bmod_def]
  split
  · omega
  · omega

namespace Timing

/-- The variant of a lookup table, by the type of its tile and its place. -/
def lutVariantName (tileType : String) (z : Nat) : String :=
  match decide (tileType ∈ ["CLBLM_L", "CLBLM_R"] ∧ z < 64), decide (z % 16 = 1) with
  | true, true => "LUT_OR_MEM5LRAM"
  | true, false => "LUT_OR_MEM6LRAM"
  | false, true => "LUT5"
  | false, false => "LUT6"

/-- What a port of a lookup table goes by: at a half table one port stands for another. -/
def slotPort (z : Nat) (full half port : String) : String :=
  if z % 16 = 1 ∧ port = full then half else port

end Timing

namespace Device

variable {d : Device} {b : BelId} {tile : Tile} {bel : Bel} {inst : Nat}

theorem instanceTiming_eq (htile : d.tile b.tile = .ok tile) (hbel : d.bel b = .ok bel)
    (htimed : bel.timingInst = some inst) :
    d.instanceTiming b = .ok (d.record.timingOf tile.tileType inst) := by
  obtain ⟨tt, htt, -⟩ := bind_eq_ok_iff.1 hbel
  have htype : d.record.tileTypes[tile.tileType]? = some tt := by
    rw [tileType, htile] at htt
    exact fetch_eq_ok_iff.1 htt
  simp only [instanceTiming, tileTimingIndex, htt, hbel, htimed, bind, Except.bind, pure, Except.pure,
    ChipRecord.timingOf, timingIndexAt, htype, Option.bind_some]
  cases tt.timingIndex <;> rfl

theorem place_of_belLocation (hbel : d.bel b = .ok bel) (hz : bel.z < 4294967296) :
    ∃ l, d.belLocation b = .ok l ∧ (l.z % 4294967296).toNat = bel.z := by
  obtain ⟨tt, htt, -⟩ := bind_eq_ok_iff.1 hbel
  have hcolumns : d.record.width ≠ 0 := by
    intro hnone
    have hinside := hasTile_of_tileType htt
    rw [HasTile, tileCount, d.valid.grid, hnone, Nat.zero_mul] at hinside
    exact Nat.not_lt_zero _ hinside
  refine ⟨⟨signed (b.tile % d.record.width), signed (b.tile / d.record.width), signed bel.z⟩, ?_, ?_⟩
  · simp only [belLocation, tileXY, if_neg hcolumns, hbel, bind, Except.bind, pure, Except.pure]
  · dsimp only
    exact toNat_signed_emod hz

theorem exists_typeName (hd : d.Named) (hbel : d.bel b = .ok bel) :
    ∃ tileType typeName, d.belTileType b = .ok tileType ∧ d.nameOf tileType = .ok typeName := by
  obtain ⟨tt, htt, -⟩ := bind_eq_ok_iff.1 hbel
  obtain ⟨tileType, htype, hident⟩ := answers_tileTypeName hd (hasTile_of_tileType htt)
  obtain ⟨typeName, hname, -⟩ := answers_nameOf hident
  exact ⟨tileType, typeName, htype, hname⟩

end Device

namespace Context

open Timing

variable {d : Device} {c : Context} {cell : CellId} {info : Cell} {b : BelId} {tile : Tile} {bel : Bel}
  {inst : Nat} {variant fromPort toPort : Ident}

/-- A cell on a bel that has a timing instance. -/
structure OnTimedBel (c : Context) (cell : CellId) (info : Cell) (b : BelId) (tile : Tile) (bel : Bel)
    (inst : Nat) : Prop where
  known : c.netlist.cell cell = .ok info
  placed : info.bel = some b
  inTile : c.device.tile b.tile = .ok tile
  isBel : c.device.bel b = .ok bel
  timed : bel.timingInst = some inst

namespace OnTimedBel

theorem storedDelay_eq (h : c.OnTimedBel cell info b tile bel inst) :
    c.storedDelay cell variant fromPort toPort = .ok ((c.device.record.timingOf tile.tileType inst).bind
      fun i => i.stored variant fromPort toPort) := by
  have htiming := Device.instanceTiming_eq h.inTile h.isBel h.timed
  simp only [storedDelay, h.known, h.placed, htiming, bind, Except.bind, pure, Except.pure]
  cases c.device.record.timingOf tile.tileType inst <;> rfl

theorem timedBel?_eq (h : c.OnTimedBel cell info b tile bel inst) (hxc7 : c.device.isXc7 = true) :
    c.timedBel? info = .ok (some b) := by
  simp only [timedBel?, h.placed, hxc7, h.isBel, h.timed, bind, Except.bind, pure, Except.pure,
    Option.isSome_some, if_true]

theorem cellDelay_of_type (h : c.OnTimedBel cell info b tile bel inst) (hxc7 : c.device.isXc7 = true)
    (hty : info.cellType = Known.ident "CARRY4" ∨ info.cellType ∈ wideMuxes) :
    c.cellDelay cell fromPort toPort = c.storedDelay cell info.cellType fromPort toPort := by
  simp only [cellDelay, h.known, h.timedBel?_eq hxc7, bind, Except.bind]
  have hlut : info.cellType ≠ Known.ident "SLICE_LUTX" := by
    rcases hty with hty | hty
    · rw [hty]
      decide +kernel
    · intro heq
      rw [heq] at hty
      revert hty
      decide +kernel
  rw [if_neg hlut]
  by_cases hcarry : info.cellType = Known.ident "CARRY4"
  · rw [if_pos hcarry, hcarry]
  · have hmux : wideMuxes.contains info.cellType = true :=
      List.contains_iff_mem.2 (hty.resolve_left hcarry)
    rw [if_neg hcarry, if_pos hmux]

theorem cellDelay_of_lut (h : c.OnTimedBel cell info b tile bel inst) (hxc7 : c.device.isXc7 = true)
    (hz : bel.z < 4294967296) (hty : info.cellType = Known.ident "SLICE_LUTX")
    (hclk : fromPort ≠ Known.ident "CLK") {tileType : Ident}
    (htype : c.device.belTileType b = .ok tileType) :
    c.cellDelay cell fromPort toPort = c.storedDelay cell
      (lutVariant ((tileType = Known.ident "CLBLM_L" || tileType = Known.ident "CLBLM_R") && bel.z < 64)
        (bel.z % 16 = 1))
      (if decide (bel.z % 16 = 1) && fromPort = Known.ident "A6" then Known.ident "A5" else fromPort)
      (if decide (bel.z % 16 = 1) && toPort = Known.ident "O6" then Known.ident "O5" else toPort) := by
  obtain ⟨l, hl, hplace⟩ := Device.place_of_belLocation h.isBel hz
  simp only [cellDelay, h.known, h.timedBel?_eq hxc7, bind, Except.bind, if_pos hty, timedLutDelay, hl,
    htype, hplace, if_neg hclk]

end OnTimedBel

/-! ### Variants and ports by name -/

section
variable {ids : IdentTable} {i : Ident} {z : Nat}

theorem eq_known_iff (h : Known.names <+: ids.names.toList) {name known : String}
    (hname : ids.name? i = some name) (hknown : known ∈ Known.names) :
    i = Known.ident known ↔ name = known := by
  rw [← IdentTable.name?_eq_known_iff h hknown, hname, Option.some.injEq]

theorem lutVariantName_known (typeName : String) (z : Nat) :
    lutVariantName typeName z ∈ Known.names := by
  unfold lutVariantName
  split <;> decide +kernel

theorem lutVariant_eq_ident (h : Known.names <+: ids.names.toList) {typeName : String}
    (hname : ids.name? i = some typeName) :
    lutVariant ((i = Known.ident "CLBLM_L" || i = Known.ident "CLBLM_R") && z < 64) (z % 16 = 1) =
      Known.ident (lutVariantName typeName z) := by
  have hleft : i = Known.ident "CLBLM_L" ↔ typeName = "CLBLM_L" :=
    eq_known_iff h hname (by decide +kernel)
  have hright : i = Known.ident "CLBLM_R" ↔ typeName = "CLBLM_R" :=
    eq_known_iff h hname (by decide +kernel)
  have hmemory : ((i = Known.ident "CLBLM_L" || i = Known.ident "CLBLM_R") && decide (z < 64)) =
      decide (typeName ∈ ["CLBLM_L", "CLBLM_R"] ∧ z < 64) := by
    simp only [hleft, hright, List.mem_cons, List.not_mem_nil, or_false, Bool.decide_and,
      Bool.decide_or]
  rw [hmemory]
  unfold lutVariant lutVariantName
  cases decide (typeName ∈ ["CLBLM_L", "CLBLM_R"] ∧ z < 64) <;> cases decide (z % 16 = 1) <;> rfl

theorem name?_slotPort (h : Known.names <+: ids.names.toList) {full half : String}
    (hfull : full ∈ Known.names) (hhalf : half ∈ Known.names) :
    ids.name? (if decide (z % 16 = 1) && i = Known.ident full then Known.ident half else i) =
      (ids.name? i).map (slotPort z full half) := by
  have hcond : (decide (z % 16 = 1) && decide (i = Known.ident full)) = true ↔
      z % 16 = 1 ∧ i = Known.ident full := by simp
  by_cases hslot : z % 16 = 1 ∧ i = Known.ident full
  · rw [if_pos (hcond.2 hslot), (IdentTable.name?_eq_known_iff h hhalf).2 rfl,
      (IdentTable.name?_eq_known_iff h hfull).2 hslot.2, Option.map_some, slotPort,
      if_pos ⟨hslot.1, rfl⟩]
  · rw [if_neg (hcond.not.2 hslot)]
    cases hname : ids.name? i with
    | none => rfl
    | some port =>
      have hother : ¬ (z % 16 = 1 ∧ port = full) := fun hport =>
        hslot ⟨hport.1, (eq_known_iff h hname hfull).2 hport.2⟩
      rw [Option.map_some, slotPort, if_neg hother]

end

/-! ### Cells of a built device -/

section
variable {name : String} {width height : Nat} {steps : List BuildStep} {outs : List (Option Nat)}
  {r : ChipRecord} {checksum : ContentHash} {db : ChipDatabase}

/-- What the steps of a build have to do with a context of the device that they lead to. -/
structure OfBuilt (c : Context) (steps : List BuildStep) : Prop where
  wellBuilt : c.device.record.WellBuilt steps
  delays : ∀ tt inst, BuildStep.delays steps tt inst = BuildStep.recorded steps tt inst
  known : Known.names <+: c.device.ids.names.toList
  names : ∀ i word, c.device.record.table.name? i = some word → c.device.ids.name? i = some word

theorem ofBuilt_of_reachable (built : ChipRecord.build name width height steps = .ok (outs, r))
    (accepted : ChipDatabase.ofRecord r checksum = .ok db) (opens : Device.ofDatabase db = .ok (.ok d))
    (hreach : Reachable d c) : c.OfBuilt steps := by
  have hwell := wellBuilt_of_build built
  obtain ⟨hdb, hopened⟩ := Device.opened_of_ofDatabase opens
  obtain ⟨names, hdevice⟩ := hreach.device
  have hrecord : c.device.record = r := by
    rw [hdevice, Device.record, hdb, ChipDatabase.record_of_ofRecord accepted]
  have hids : d.ids = r.table := by
    have htable := hwell.named.table d.db (by rw [hdb, ChipDatabase.record_of_ofRecord accepted])
    exact Except.ok.inj (hopened.ids.symm.trans htable)
  refine ⟨hrecord ▸ hwell, delays_eq_recorded built, ?_, ?_⟩
  · rw [hdevice]
    refine List.IsPrefix.trans ?_ (IdentTable.names_prefix_internAll ..)
    rw [hids, hwell.named.names]
    exact List.prefix_append ..
  · intro i word h
    rw [hrecord, ← hids] at h
    rw [hdevice]
    exact IdentTable.name?_internAll_of_name? h

theorem OnTimedBel.answers_storedDelay (h : c.OnTimedBel cell info b tile bel inst)
    (hbuilt : c.OfBuilt steps)
    (honce : BuildStep.RecordedOnce steps tile.tileType inst)
    {word : String} (hword : c.device.ids.name? variant = some word) :
    Answers (c.storedDelay cell variant fromPort toPort) fun found => ∀ delay, found = some delay ↔
      ∃ f t, c.device.ids.name? fromPort = some f ∧ c.device.ids.name? toPort = some t ∧
        (word, f, t, delay) ∈ BuildStep.recorded steps tile.tileType inst := by
  rw [h.storedDelay_eq]
  refine answers_ok fun delay => ?_
  have harcs := (hbuilt.wellBuilt.named.arcs tile.tileType inst).of_name? hbuilt.names
  rw [hbuilt.delays] at harcs
  rw [hbuilt.wellBuilt.stored_iff_recorded harcs honce]
  constructor
  · rintro ⟨v, f, t, hv, hf, ht, hmem⟩
    obtain rfl := Option.some.inj (hv.symm.trans hword)
    exact ⟨f, t, hf, ht, hmem⟩
  · rintro ⟨f, t, hf, ht, hmem⟩
    exact ⟨word, f, t, hword, hf, ht, hmem⟩

theorem OnTimedBel.answers_of_type (h : c.OnTimedBel cell info b tile bel inst)
    (hbuilt : c.OfBuilt steps) (hxc7 : c.device.isXc7 = true)
    (honce : BuildStep.RecordedOnce steps tile.tileType inst) {ty : String}
    (hty : ty ∈ ["CARRY4", "F7MUX", "F8MUX", "F9MUX", "SELMUX2_1"])
    (hname : c.device.ids.name? info.cellType = some ty) :
    Answers (c.cellDelay cell fromPort toPort) fun found => ∀ delay, found = some delay ↔
      ∃ f t, c.device.ids.name? fromPort = some f ∧ c.device.ids.name? toPort = some t ∧
        (ty, f, t, delay) ∈ BuildStep.recorded steps tile.tileType inst := by
  have hknown : ∀ ty ∈ ["CARRY4", "F7MUX", "F8MUX", "F9MUX", "SELMUX2_1"], ty ∈ Known.names := by
    decide +kernel
  have hcellType : info.cellType = Known.ident "CARRY4" ∨ info.cellType ∈ wideMuxes := by
    rw [(IdentTable.name?_eq_known_iff hbuilt.known (hknown ty hty)).1 hname]
    rcases List.mem_cons.1 hty with rfl | hmux
    · exact Or.inl rfl
    · exact Or.inr (List.mem_map_of_mem hmux)
  rw [h.cellDelay_of_type hxc7 hcellType]
  exact h.answers_storedDelay hbuilt honce hname

theorem OnTimedBel.answers_of_lut (h : c.OnTimedBel cell info b tile bel inst)
    (hbuilt : c.OfBuilt steps) (hxc7 : c.device.isXc7 = true)
    (honce : BuildStep.RecordedOnce steps tile.tileType inst) (hz : bel.z < 4294967296)
    {tileType : Ident} (htype : c.device.belTileType b = .ok tileType) {typeName : String}
    (htypeName : c.device.ids.name? tileType = some typeName)
    (hname : c.device.ids.name? info.cellType = some "SLICE_LUTX")
    (hclk : c.device.ids.name? fromPort ≠ some "CLK") :
    Answers (c.cellDelay cell fromPort toPort) fun found => ∀ delay, found = some delay ↔
      ∃ f t, c.device.ids.name? fromPort = some f ∧ c.device.ids.name? toPort = some t ∧
        (lutVariantName typeName bel.z, slotPort bel.z "A6" "A5" f, slotPort bel.z "O6" "O5" t,
          delay) ∈ BuildStep.recorded steps tile.tileType inst := by
  have hcellType := (IdentTable.name?_eq_known_iff hbuilt.known (by decide +kernel)).1 hname
  have hclk' : fromPort ≠ Known.ident "CLK" := fun heq =>
    hclk ((IdentTable.name?_eq_known_iff hbuilt.known (by decide +kernel)).2 heq)
  have hvariant := (IdentTable.name?_eq_known_iff hbuilt.known (lutVariantName_known typeName bel.z)).2
    (lutVariant_eq_ident (z := bel.z) hbuilt.known htypeName)
  rw [h.cellDelay_of_lut hxc7 hz hcellType hclk' htype]
  refine (h.answers_storedDelay hbuilt honce hvariant).mono fun found hfound delay => ?_
  rw [hfound delay, name?_slotPort hbuilt.known (by decide +kernel) (by decide +kernel),
    name?_slotPort hbuilt.known (by decide +kernel) (by decide +kernel)]
  simp only [Option.map_eq_some_iff]
  constructor
  · rintro ⟨_, _, ⟨f, hf, rfl⟩, ⟨t, ht, rfl⟩, hmem⟩
    exact ⟨f, t, hf, ht, hmem⟩
  · rintro ⟨f, t, hf, ht, hmem⟩
    exact ⟨_, _, ⟨f, hf, rfl⟩, ⟨t, ht, rfl⟩, hmem⟩

/-- On a device with a built record, where no arc of a timing instance was recorded twice, the delay of a
placed cell is the one that was recorded for the instance of its bel, and there is none if none was. A
carry chain or wide multiplexer goes by its type and its ports. A lookup table goes by the variant of its
place, and at a half table the last input and the output go by the names that they have there. The place
is a word. -/
theorem recorded_delays_found (built : ChipRecord.build name width height steps = .ok (outs, r))
    (accepted : ChipDatabase.ofRecord r checksum = .ok db) (opens : Device.ofDatabase db = .ok (.ok d))
    (hxc7 : d.isXc7 = true) (hreach : Reachable d c)
    (hcell : c.netlist.cell cell = .ok info) (hplaced : info.bel = some b)
    (htile : d.tile b.tile = .ok tile) (hbel : d.bel b = .ok bel) (htimed : bel.timingInst = some inst)
    (hz : bel.z < 4294967296) (honce : BuildStep.RecordedOnce steps tile.tileType inst) :
    (∀ ty ∈ ["CARRY4", "F7MUX", "F8MUX", "F9MUX", "SELMUX2_1"],
      c.device.ids.name? info.cellType = some ty → ∀ fromPort toPort,
        Answers (c.cellDelay cell fromPort toPort) fun found => ∀ delay, found = some delay ↔
          ∃ f t, c.device.ids.name? fromPort = some f ∧ c.device.ids.name? toPort = some t ∧
            (ty, f, t, delay) ∈ BuildStep.recorded steps tile.tileType inst) ∧
    ∃ typeName, (do d.nameOf (← d.belTileType b)) = .ok typeName ∧
      (c.device.ids.name? info.cellType = some "SLICE_LUTX" → ∀ fromPort toPort,
        c.device.ids.name? fromPort ≠ some "CLK" →
          Answers (c.cellDelay cell fromPort toPort) fun found => ∀ delay, found = some delay ↔
            ∃ f t, c.device.ids.name? fromPort = some f ∧ c.device.ids.name? toPort = some t ∧
              (lutVariantName typeName bel.z, slotPort bel.z "A6" "A5" f, slotPort bel.z "O6" "O5" t,
                delay) ∈ BuildStep.recorded steps tile.tileType inst) := by
  have hbuilt := ofBuilt_of_reachable built accepted opens hreach
  obtain ⟨names, hdevice⟩ := hreach.device
  have hplace : c.OnTimedBel cell info b tile bel inst :=
    ⟨hcell, hplaced, by rw [hdevice]; exact htile, by rw [hdevice]; exact hbel, htimed⟩
  have hfamily : c.device.isXc7 = true := by
    rw [hdevice]
    exact hxc7
  obtain ⟨tileType, typeName, htype, htypeName⟩ :=
    Device.exists_typeName (Device.opened_of_ofDatabase opens).2.named hbel
  have htype' : c.device.belTileType b = .ok tileType := by
    rw [hdevice]
    exact htype
  have htypeName' : c.device.ids.name? tileType = some typeName := by
    rw [hdevice]
    exact IdentTable.name?_internAll_of_name? (fetch_eq_ok_iff.1 htypeName)
  refine ⟨?_, typeName, bind_eq_ok_iff.2 ⟨tileType, htype, htypeName⟩, ?_⟩
  · intro ty hty hname fromPort toPort
    exact hplace.answers_of_type hbuilt hfamily honce hty hname
  · intro hname fromPort toPort hclk
    exact hplace.answers_of_lut hbuilt hfamily honce hz htype' htypeName' hname hclk

/-- The lower half of a lookup table in a tile with memory. -/
def halfSteps : List BuildStep :=
  [.tileType "CLBLM_L", .bel 1 "A5LUT" "SLICE_LUTX" 1 none, .setTile 0 0 "CLBLM_L_X0Y0" 1,
   .timingInstance 1, .belTiming 1 0 0, .cellDelay 1 0 "LUT_OR_MEM5LRAM" "A5" "O5" 98,
   .cellDelay 1 0 "LUT_OR_MEM5LRAM" "A1" "O5" 80, .cellDelay 1 0 "LUT5" "A1" "O5" 100]

def halfActs : List Act :=
  [.edit (.cell "lut" (Known.ident "SLICE_LUTX")), .bindBel ⟨0, 0⟩ 0 .strong]

/-- The last input of a half table is its fifth, and its output the other one. -/
theorem recorded_delays_found_half : ∃ outs r db d c,
    ChipRecord.build "xc7a" 1 1 halfSteps = .ok (outs, r) ∧ ChipDatabase.ofRecord r ⟨[]⟩ = .ok db ∧
    Device.ofDatabase db = .ok (.ok d) ∧ Reachable d c ∧
    c.cellDelay 0 (Known.ident "A6") (Known.ident "O6") = .ok (some 98) := by
  have hopens : (do
      let (_, r) ← ChipRecord.build "xc7a" 1 1 halfSteps
      match ChipDatabase.ofRecord r ⟨[]⟩ with
      | .ok db => do
        let opened ← Device.ofDatabase db
        return opened.toOption.map fun d => decide ((do
          let c ← Act.performAll { device := d } halfActs
          let info ← c.netlist.cell 0
          let tile ← d.tile 0
          let bel ← d.bel ⟨0, 0⟩
          let typeName ← (do d.nameOf (← d.belTileType ⟨0, 0⟩))
          let name (i : Ident) := c.device.ids.name? i
          return decide (d.isXc7 = true ∧ info.bel = some ⟨0, 0⟩ ∧ tile.tileType = 1 ∧
            bel.timingInst = some 0 ∧ bel.z = 1 ∧ typeName = "CLBLM_L" ∧
            name info.cellType = some "SLICE_LUTX" ∧ name (Known.ident "A6") = some "A6" ∧
            name (Known.ident "O6") = some "O6")) = Except.ok true)
      | .error _ => return none) = Except.ok (some true) := by decide +kernel
  obtain ⟨⟨outs, r⟩, built, hopens⟩ := bind_eq_ok_iff.1 hopens
  cases accepted : ChipDatabase.ofRecord r ⟨[]⟩ with
  | error e => simp [accepted, pure, Except.pure] at hopens
  | ok db =>
    simp only [accepted] at hopens
    obtain ⟨d, opens, hcheck⟩ := Device.exists_of_check hopens
    obtain ⟨c, hc, hcheck⟩ := bind_eq_ok_iff.1 (of_decide_eq_true hcheck)
    obtain ⟨info, hcell, hcheck⟩ := bind_eq_ok_iff.1 hcheck
    obtain ⟨tile, htile, hcheck⟩ := bind_eq_ok_iff.1 hcheck
    obtain ⟨bel, hbel, hcheck⟩ := bind_eq_ok_iff.1 hcheck
    obtain ⟨typeName, htypeName, hcheck⟩ := bind_eq_ok_iff.1 hcheck
    obtain ⟨hxc7, hplaced, htt, htimed, hz, rfl, hname, hfrom, hto⟩ :=
      of_decide_eq_true (Except.ok.inj hcheck)
    have hreach : Reachable d c := Run.start.performAll (fun _ _ _ => trivial) hc
    have honce : BuildStep.RecordedOnce halfSteps tile.tileType 0 := by
      rw [htt, BuildStep.RecordedOnce]
      decide
    obtain ⟨-, typeName, hnamed, hlut⟩ := recorded_delays_found built accepted opens hxc7 hreach hcell
      hplaced htile hbel htimed (by omega) honce
    obtain rfl := Except.ok.inj (htypeName.symm.trans hnamed)
    obtain ⟨found, hfound, hdelay⟩ := hlut hname (Known.ident "A6") (Known.ident "O6")
      (by rw [hfrom]; decide)
    have hrecorded := (hdelay 98).2 ⟨"A6", "O6", hfrom, hto, by rw [htt, hz]; decide⟩
    exact ⟨outs, r, db, d, c, built, accepted, opens, hreach, hrecorded ▸ hfound⟩

end

end Context
end Interconnect
