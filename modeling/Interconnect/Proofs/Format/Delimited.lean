import Interconnect.Proofs.Format.File
/-!
# Payloads that end themselves

A reader settles its bytes when it needs no more of them: whatever is put behind, it answers the same
and leaves the new bytes to be read. Numbers, texts and tables are read like this, and so is all that
is put together from them. The written form of a value is then no beginning of another one, and none
of its own beginnings is read as a value.
-/
namespace Interconnect

namespace Codec

variable {α β : Type} {P : α → Prop}

/-- A reader of values from the front of a byte string. -/
abbrev Reader (α : Type) := List UInt8 → Except ReadError (α × List UInt8)

/-- More bytes behind change nothing but the rest, unless the bytes are no value or end too early. -/
def Settles (read : Reader α) : Prop :=
  ∀ bytes more, read bytes = .error .malformed ∨
    read (bytes ++ more) = (read bytes).map fun (a, rest) => (a, rest ++ more)

/-! ### Readers -/

theorem settles_ok (a : α) : Settles fun bytes => .ok (a, bytes) := fun _ _ => .inr rfl

theorem settles_error (e : ReadError) : Settles fun _ => (.error e : Except ReadError (α × List UInt8)) :=
  fun _ _ => .inr rfl

theorem Settles.ite {read other : Reader α} (h : Settles read) (hother : Settles other) (p : Prop)
    [Decidable p] : Settles fun bytes => if p then read bytes else other bytes := by
  by_cases hp : p
  · simpa only [if_pos hp] using h
  · simpa only [if_neg hp] using hother

/-- One reader behind another, which may look at what the first one read. -/
theorem Settles.bind {read : Reader α} {next : α → Reader β} (h : Settles read)
    (hnext : ∀ a, Settles (next a)) : Settles fun bytes => read bytes >>= fun p => next p.1 p.2 := by
  intro bytes more
  rcases h bytes more with hend | hmore
  · exact .inl (by simp only [hend]; rfl)
  · cases hread : read bytes with
    | error e =>
      rw [hread] at hmore
      exact .inr (by simp only [hmore, hread]; rfl)
    | ok found =>
      rw [hread] at hmore
      simp only [hmore, hread]
      exact hnext found.1 found.2 more

theorem Settles.map {read : Reader α} (h : Settles read) (f : α → β) :
    Settles fun bytes => (read bytes).map fun (a, rest) => (f a, rest) := by
  intro bytes more
  rcases h bytes more with hend | hmore
  · exact .inl (by simp only [hend]; rfl)
  · refine .inr ?_
    simp only [hmore]
    cases read bytes <;> rfl

theorem settles_takeExactly (n : Nat) : Settles (takeExactly n) := by
  intro bytes more
  by_cases hlength : (bytes.take n).length = n
  · have hle : n ≤ bytes.length := by
      rw [List.length_take] at hlength
      omega
    have htake : (bytes ++ more).take n = bytes.take n := List.take_append_of_le_length hle
    have hdrop : (bytes ++ more).drop n = bytes.drop n ++ more := List.drop_append_of_le_length hle
    exact .inr (by simp only [takeExactly, htake, hdrop, if_pos hlength]; rfl)
  · exact .inl (if_neg hlength)

theorem settles_readWord (n : Nat) : Settles (readWord n) := (settles_takeExactly n).map Bytes.toNat

theorem settles_readNumber (wide : Bool) : Settles (readNumber wide) := by
  intro bytes more
  cases bytes with
  | nil => exact .inl rfl
  | cons b rest =>
    have hbehind := (settles_ok b.toNat).ite ((settles_readWord 2).ite ((settles_readWord 4).ite
      ((settles_readWord 8).ite (settles_error .malformed) (b.toNat = 253 ∧ wide = true))
      (b.toNat = 252)) (b.toNat = 251)) (b.toNat ≤ 250)
    exact hbehind rest more

theorem settles_readMany {c : Codec α} (h : Settles c.read) (n : Nat) : Settles (readMany c n) := by
  induction n with
  | zero => exact settles_ok []
  | succ n ih => exact h.bind fun a => ih.bind fun as => settles_ok (a :: as)

/-! ### Codecs -/

theorem nat_settles : Settles nat.read := settles_readNumber false

theorem length_settles : Settles length.read := settles_readNumber true

theorem Settles.through {c : Codec β} (h : Settles c.read) {there : α → β} {back : β → α} :
    Settles (c.through there back).read := h.map back

theorem int_settles : Settles int.read := nat_settles.through

theorem Settles.pair {a : Codec α} {b : Codec β} (ha : Settles a.read) (hb : Settles b.read) :
    Settles (pair a b).read :=
  ha.bind fun x => hb.bind fun y => settles_ok (x, y)

theorem Settles.option {c : Codec α} (h : Settles c.read) : Settles (option c).read := by
  intro bytes more
  unfold Codec.option
  cases bytes with
  | nil => exact .inl rfl
  | cons tag rest =>
    by_cases hnone : tag = 0
    · subst hnone
      exact .inr rfl
    · by_cases hsome : tag = 1
      · subst hsome
        exact h.map some rest more
      · exact .inl (by simp [hnone, hsome])

theorem bool_settles : Settles bool.read := by
  intro bytes more
  unfold bool
  cases bytes with
  | nil => exact .inl rfl
  | cons tag rest =>
    by_cases hfalse : tag = 0
    · subst hfalse
      exact .inr rfl
    · by_cases htrue : tag = 1
      · subst htrue
        exact .inr rfl
      · exact .inl (by simp [hfalse, htrue])

theorem Settles.array {c : Codec α} (h : Settles c.read) : Settles (array c).read :=
  length_settles.bind fun n => (settles_readMany h n).bind fun as => settles_ok as.toArray

theorem settles_elim (found : Option α) :
    Settles fun bytes => found.elim (.error .malformed) fun a => .ok (a, bytes) := by
  cases found with
  | some a => exact settles_ok a
  | none => exact settles_error .malformed

theorem text_settles : Settles text.read := by
  have hread : text.read = fun bytes => length.read bytes >>= fun p =>
      if textLimit ≤ p.1 then .error (.oversized p.1)
      else takeExactly p.1 p.2 >>= fun p =>
        (String.fromUTF8? ⟨p.1.toArray⟩).elim (.error .malformed) fun s => .ok (s, p.2) := by
    funext bytes
    simp only [text]
    refine bind_congr fun p => ?_
    split
    · rfl
    · refine bind_congr fun p => ?_
      cases String.fromUTF8? ⟨p.1.toArray⟩ with
      | some s => rfl
      | none => rfl
  have hvalid (front : List UInt8) := settles_elim (String.fromUTF8? ⟨front.toArray⟩)
  rw [hread]
  exact length_settles.bind fun n =>
    (settles_error (.oversized n)).ite ((settles_takeExactly n).bind hvalid) (textLimit ≤ n)

theorem oneOf_settles [BEq α] (values : List α) : Settles (oneOf values).read := by
  have hread : (oneOf values).read = fun bytes => nat.read bytes >>= fun p =>
      values[p.1]?.elim (.error .malformed) fun a => .ok (a, p.2) := by
    funext bytes
    simp only [oneOf]
    refine bind_congr fun p => ?_
    cases values[p.1]? with
    | some a => rfl
    | none => rfl
  rw [hread]
  exact nat_settles.bind fun n => settles_elim values[n]?

/-- The bytes of a value that is read back are not read when some of them are missing. -/
theorem malformed_of_prefix {c : Codec α} (hback : c.ReadsBack P) (hsettles : Settles c.read) {a : α}
    (ha : P a) {front : List UInt8} (hfront : front <+: c.write a) (hne : front ≠ c.write a) :
    c.read front = .error .malformed := by
  obtain ⟨more, hmore⟩ := hfront
  rcases hsettles front more with hend | hread
  · exact hend
  · -- the whole would leave the missing bytes unread
    have hwhole := hback a ha []
    rw [List.append_nil, ← hmore, hread] at hwhole
    cases hfound : c.read front with
    | error e =>
      rw [hfound] at hwhole
      cases hwhole
    | ok found =>
      rw [hfound] at hwhole
      have hrest : found.2 ++ more = [] := congrArg Prod.snd (Except.ok.inj hwhole)
      have hnil : more = [] := (List.append_eq_nil_iff.1 hrest).2
      rw [hnil, List.append_nil] at hmore
      exact absurd hmore hne

end Codec

/-! ### Chip records -/

namespace Payload

open Codec

theorem belPin_settles : Settles belPin.read :=
  (nat_settles.pair (nat_settles.pair (oneOf_settles _))).through

theorem bel_settles : Settles bel.read :=
  (nat_settles.pair (nat_settles.pair (nat_settles.pair (nat_settles.option.pair
    (bool_settles.pair (belPin_settles.array.pair nat_settles.option)))))).through

theorem wire_settles : Settles wire.read :=
  (nat_settles.pair (nat_settles.pair (nat_settles.option.pair (nat_settles.array.pair
    (nat_settles.array.pair (nat_settles.pair nat_settles).through.array))))).through

theorem pip_settles : Settles pip.read :=
  (nat_settles.pair (nat_settles.pair (nat_settles.option.pair (nat_settles.option.pair
    ((oneOf_settles _).pair nat_settles.option))))).through

theorem tileType_settles : Settles tileType.read :=
  (nat_settles.pair (bel_settles.array.pair (wire_settles.array.pair
    (pip_settles.array.pair nat_settles.option)))).through

theorem site_settles : Settles site.read :=
  (text_settles.pair (text_settles.pair (text_settles.pair
    ((int_settles.pair int_settles).pair (nat_settles.pair nat_settles).option)))).through

theorem tile_settles : Settles tile.read :=
  (text_settles.pair (nat_settles.pair (site_settles.array.pair nat_settles.option.array))).through

theorem node_settles : Settles node.read :=
  (nat_settles.pair (nat_settles.pair nat_settles).through.array).through

theorem timingData_settles : Settles timingData.read := by
  have hdelay : Settles arcDelay.read :=
    (nat_settles.pair (nat_settles.pair (int_settles.pair int_settles))).through
  have hcell : Settles cellTiming.read := (nat_settles.pair hdelay.array).through
  have htable : Settles timingTable.read := hcell.array.through.array.through
  exact htable.array.through

theorem chipRecord_settles : Settles chipRecord.read :=
  (text_settles.pair (text_settles.pair (nat_settles.pair (nat_settles.pair (nat_settles.pair
    (text_settles.array.pair (tileType_settles.array.pair (tile_settles.array.pair
    (node_settles.array.pair timingData_settles.option))))))))).through

end Payload

/-! ### Chip files -/

namespace ChipFile

variable {r : ChipRecord}

/-- A record is decoded from behind its header whatever follows its bytes, and never from a part of
them: a payload that ends anywhere before the record does is refused as no record. -/
theorem payload_delimits_itself (fits : r.Fits) :
    (∀ more, let payload := Payload.chipRecord.write r ++ more
      decode (frame payload) = .ok (.ok (r, ContentHash.ofBytes payload))) ∧
    ∀ front, front <+: Payload.chipRecord.write r → front ≠ Payload.chipRecord.write r →
      decode (frame front) = .ok (.error .payload) := by
  constructor
  · intro more
    have hrecord := Payload.chipRecord_readsBack r fits more
    simp [decode, unframe_frame, hrecord]
  · intro front hfront hne
    have hrefused := Codec.malformed_of_prefix Payload.chipRecord_readsBack
      Payload.chipRecord_settles fits hfront hne
    simp [decode, unframe_frame, hrefused]

/-- A byte behind the sample record and all of its bytes but the last. -/
theorem payload_delimits_itself_sample :
    let bytes := Payload.chipRecord.write sampleRecord
    sampleRecord.Fits ∧ bytes.dropLast <+: bytes ∧ bytes.dropLast ≠ bytes ∧
    decode (frame (bytes ++ [7])) = .ok (.ok (sampleRecord, ContentHash.ofBytes (bytes ++ [7]))) ∧
    decode (frame bytes.dropLast) = .ok (.error .payload) := by
  intro bytes
  have fits : sampleRecord.Fits := by decide +kernel
  have hlength : bytes.length = 132 := by decide +kernel
  have hfront : bytes.dropLast <+: bytes := List.dropLast_prefix bytes
  have hne : bytes.dropLast ≠ bytes := by
    intro heq
    have hless := congrArg List.length heq
    rw [List.length_dropLast, hlength] at hless
    omega
  obtain ⟨hmore, hpart⟩ := payload_delimits_itself fits
  exact ⟨fits, hfront, hne, hmore [7], hpart _ hfront hne⟩

end ChipFile
end Interconnect
