import Interconnect.Proofs.Device.Identifiers
import Interconnect.Proofs.Device.Lookup
import Interconnect.Proofs.Renumbering.Alike
import Interconnect.Routing.SinkLocation
import Mathlib.Data.List.Find
/-!
# One chip with two tables of names

A design registers the names that it needs behind those of its chip, in the order in which it meets
them. Two designs on one chip may so have different numbers for one name. All that the chip's own
record says is the same for both, names included.
-/
namespace Interconnect

namespace Device

variable {d d' : Device} {i i' k : Ident} {w : WireId} {b : BelId}

theorem wireEntry_of_memberInfo {m : TileWire} {info : Wire} (h : d.memberInfo m = .ok info) :
    d.WireEntry m info := by
  obtain ⟨tt, typed, inside⟩ := bind_eq_ok_iff.1 h
  obtain ⟨info', hinfo, entry⟩ := answers_memberInfo ⟨tt, typed, lt_size_of_fetch inside⟩
  obtain rfl : info' = info := Except.ok.inj (hinfo.symm.trans h)
  exact entry

theorem belEntry_of_bel {info : Bel} (h : d.bel b = .ok info) : d.BelEntry b info := by
  obtain ⟨tt, typed, inside⟩ := bind_eq_ok_iff.1 h
  obtain ⟨info', hinfo, entry⟩ := answers_bel ⟨tt, typed, lt_size_of_fetch inside⟩
  obtain rfl : info' = info := Except.ok.inj (hinfo.symm.trans h)
  exact entry

/-- Devices that differ at most in the names registered behind those of their chip. -/
structure SameChip (d d' : Device) : Prop where
  rest : d' = { d with ids := d'.ids }
  named : d.Named
  names : ∀ i < d.record.idLimit, d'.ids.name? i = d.ids.name? i

/-- Identifiers of one name, each on its own device. -/
def SameIdent (d d' : Device) (i i' : Ident) : Prop := d'.ids.name? i' = d.ids.name? i

theorem Named.exists_name (h : d.Named) (hi : i < d.record.idLimit) :
    ∃ name, d.ids.name? i = some name :=
  ⟨_, Array.getElem?_eq_getElem (Nat.lt_of_lt_of_le hi h)⟩

theorem SameIdent.eq_iff (hi : d.SameIdent d' i i') (h : d.SameChip d')
    (hk : k < d.record.idLimit) : i' = k ↔ i = k := by
  obtain ⟨name, hname⟩ := h.named.exists_name hk
  have hname' : d'.ids.name? k = some name := (h.names k hk).trans hname
  constructor
  · rintro rfl
    exact IdentTable.eq_of_name? (hi.symm.trans hname') hname
  · rintro rfl
    exact IdentTable.eq_of_name? (hi.trans hname) hname'

namespace SameChip

theorem refl (h : d.Named) : d.SameChip d := ⟨rfl, h, fun _ _ => rfl⟩

theorem record (h : d.SameChip d') : d'.record = d.record := by
  rw [h.rest]
  rfl

theorem symm (h : d.SameChip d') : d'.SameChip d := by
  refine ⟨?_, ?_, ?_⟩
  · rw [h.rest]
  · apply Nat.le_of_not_lt
    intro hlt
    obtain ⟨name, hname⟩ := h.named.exists_name (h.record ▸ hlt)
    rw [← h.names _ (h.record ▸ hlt)] at hname
    exact Nat.lt_irrefl _ (Array.getElem?_eq_some_iff.1 hname).1
  · intro i hi
    exact (h.names i (h.record ▸ hi)).symm

theorem intern (h : d.SameChip d') (name : String) : d.SameChip (d'.intern name).2 := by
  refine ⟨?_, h.named, fun i hi => ?_⟩
  · change { d' with ids := _ } = _
    rw [h.rest]
    rfl
  · obtain ⟨other, hother⟩ := h.named.exists_name hi
    have hother' : d'.ids.name? i = some other := (h.names i hi).trans hother
    rw [hother]
    exact IdentTable.name?_intern_of_name? hother'

/-! ### What does not depend on names -/

/-- What a device says without looking at names is the same for both. -/
theorem same {α : Type} (h : d.SameChip d') (q : Device → α)
    (hq : ∀ ids, q { d with ids } = q d) : q d' = q d := by
  rw [h.rest]
  exact hq _

theorem visitUphill (h : d.SameChip d') (limit : Nat) (s : SinkSearch) :
    d'.visitUphill limit s = d.visitUphill limit s := by
  have hexit := h.same isExit fun _ => rfl
  have hmeet := h.same meetUphill fun _ => rfl
  have huphill := h.same pipsUphill fun _ => rfl
  induction limit generalizing s with
  | zero => rfl
  | succ limit ih =>
    simp only [Device.visitUphill, hexit, hmeet, huphill, ih]

/-! ### Names -/

theorem nameOf (h : d.SameChip d') (hi : i < d.record.idLimit) : d'.nameOf i = d.nameOf i := by
  obtain ⟨name, hname⟩ := h.named.exists_name hi
  have hname' : d'.ids.name? i = some name := (h.names i hi).trans hname
  exact (fetch_eq_ok_iff.2 hname').trans (fetch_eq_ok_iff.2 hname).symm

theorem memberName (h : d.SameChip d') (m : TileWire) : d'.memberName m = d.memberName m := by
  have htile := h.same tileName fun _ => rfl
  have hinfo := h.same memberInfo fun _ => rfl
  rw [Device.memberName, Device.memberName, htile, hinfo]
  cases hw : d.memberInfo m with
  | error f => rfl
  | ok info =>
    have hname := h.nameOf (wireEntry_of_memberInfo hw).name
    simp only [bind, Except.bind, hname]

theorem wireName (h : d.SameChip d') (w : WireId) : d'.wireName w = d.wireName w := by
  have hmember := h.same canonicalMember fun _ => rfl
  rw [Device.wireName, Device.wireName, hmember]
  cases d.canonicalMember w with
  | error f => rfl
  | ok m => exact h.memberName m

/-! ### Pins -/

theorem belPinWire (h : d.SameChip d') (hi : d.SameIdent d' i i') (b : BelId) :
    d'.belPinWire b i' = d.belPinWire b i := by
  have hpin : d.belPin? b i' = d.belPin? b i := by
    rw [belPin?, belPin?]
    cases hb : d.bel b with
    | error f => rfl
    | ok info =>
      have hfind : info.pins.find? (fun p => p.port = i') = info.pins.find? fun p => p.port = i := by
        rw [← Array.find?_toList, ← Array.find?_toList]
        apply List.find?_congr
        intro p hp
        have hport := ((belEntry_of_bel hb).pins p (Array.mem_toList_iff.1 hp)).1
        apply decide_eq_decide.2
        rw [eq_comm, hi.eq_iff h hport, eq_comm]
      exact congrArg Except.ok hfind
  rw [h.same (fun d => d.belPinWire b i') fun _ => rfl, Device.belPinWire, Device.belPinWire, hpin]

end SameChip
end Device
end Interconnect
