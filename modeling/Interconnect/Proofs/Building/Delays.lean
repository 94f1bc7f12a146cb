import Interconnect.Proofs.Building.Step
import Mathlib.Data.List.Nodup
import Mathlib.Data.List.Perm.Basic
import Mathlib.Data.List.TakeWhile
/-!
# Timing of a record

Every timing table belongs to one tile type. An instance groups its delays by variant, no variant
twice, and holds the delays that were recorded for it since its tile type has a table.
-/
namespace Interconnect

/-! ### Arcs of an instance -/

theorem flatMap_modify_perm {α β : Type} {xs : List α} {i : Nat} {x : α} {f : α → α}
    {g : α → List β} {more : List β} (hx : xs[i]? = some x) (h : g (f x) = g x ++ more) :
    ((xs.modify i f).flatMap g).Perm (xs.flatMap g ++ more) := by
  induction xs generalizing i with
  | nil => simp at hx
  | cons y ys ih =>
    cases i with
    | zero =>
      obtain rfl : y = x := by simpa using hx
      simp only [List.modify_zero_cons, List.flatMap_cons, h, List.append_assoc]
      exact (List.perm_append_comm).append_left _
    | succ i =>
      have hrest := ih (i := i) (by simpa using hx)
      simp only [List.modify_succ_cons, List.flatMap_cons, List.append_assoc]
      exact hrest.append_left _

theorem map_modify_same {α β : Type} {xs : List α} {i : Nat} {f : α → α} {g : α → β}
    (h : ∀ x, g (f x) = g x) : (xs.modify i f).map g = xs.map g := by
  induction xs generalizing i with
  | nil => simp
  | cons x xs ih => cases i <;> simp [h, ih]

namespace InstanceTiming

def arcs (inst : InstanceTiming) : List (Ident × ArcDelay) :=
  inst.cellTypes.toList.flatMap fun c => c.delays.toList.map fun d => (c.variant, d)

/-- No variant stands twice, and none without arcs. -/
structure Grouped (inst : InstanceTiming) : Prop where
  distinct : (inst.cellTypes.toList.map (·.variant)).Nodup
  filled : ∀ c ∈ inst.cellTypes.toList, c.delays.toList ≠ []

theorem grouped_new : Grouped ⟨#[]⟩ := by
  constructor <;> simp

variable {inst : InstanceTiming} {variant : Ident} {arc : ArcDelay}

theorem arcs_addArc : (ChipBuilder.addArc inst variant arc).arcs.Perm (inst.arcs ++ [(variant, arc)]) := by
  unfold ChipBuilder.addArc
  split
  · next i hi =>
    obtain ⟨hlt, hvariant, -⟩ := Array.findIdx?_eq_some_iff_getElem.1 hi
    simp only [arcs, Array.toList_modify]
    apply flatMap_modify_perm (x := inst.cellTypes[i])
    · simp [hlt]
    · simpa using of_decide_eq_true hvariant
  · simp [arcs]

theorem Grouped.addArc (h : inst.Grouped) : (ChipBuilder.addArc inst variant arc).Grouped := by
  unfold ChipBuilder.addArc
  split
  · next i hi =>
    constructor
    · rw [Array.toList_modify, map_modify_same]
      · exact h.distinct
      · exact fun _ => rfl
    · intro c hc
      rw [Array.toList_modify] at hc
      obtain ⟨k, hk⟩ := List.mem_iff_getElem?.1 hc
      rw [List.getElem?_modify] at hk
      obtain ⟨old, hold, rfl⟩ := Option.map_eq_some_iff.1 hk
      split
      · simp
      · exact h.filled old (List.mem_of_getElem? hold)
  · next hnone =>
    have hfresh : variant ∉ inst.cellTypes.toList.map (·.variant) := by
      intro hmem
      obtain ⟨c, hc, heq⟩ := List.mem_map.1 hmem
      have hne := Array.findIdx?_eq_none_iff.1 hnone c (Array.mem_toList_iff.1 hc)
      simp [heq] at hne
    constructor
    · rw [Array.toList_push, List.map_append]
      exact h.distinct.append (List.nodup_singleton _) (by simpa using hfresh)
    · intro c hc
      rw [Array.toList_push, List.mem_append, List.mem_singleton] at hc
      rcases hc with hc | rfl
      · exact h.filled c hc
      · simp

def ByPorts (a b : ArcDelay) : Prop :=
  a.toPort < b.toPort ∨ a.toPort = b.toPort ∧ a.fromPort ≤ b.fromPort

theorem ByPorts.trans {a b c : ArcDelay} (h : ByPorts a b) (h' : ByPorts b c) : ByPorts a c := by
  rcases h with hlt | ⟨heq, hle⟩
  · rcases h' with hlt' | ⟨heq', -⟩
    · exact .inl (Nat.lt_trans hlt hlt')
    · exact .inl (heq' ▸ hlt)
  · rcases h' with hlt' | ⟨heq', hle'⟩
    · exact .inl (heq ▸ hlt')
    · exact .inr ⟨heq.trans heq', Nat.le_trans hle hle'⟩

theorem ByPorts.total (a b : ArcDelay) : ByPorts a b ∨ ByPorts b a := by
  rcases Nat.lt_trichotomy a.toPort b.toPort with hlt | heq | hgt
  · exact .inl (.inl hlt)
  · rcases Nat.le_total a.fromPort b.fromPort with hle | hge
    · exact .inl (.inr ⟨heq, hle⟩)
    · exact .inr (.inr ⟨heq.symm, hge⟩)
  · exact .inr (.inl hgt)

/-- Variants ascend, and the arcs of each are in order. -/
structure Sorted (inst : InstanceTiming) : Prop where
  variants : (inst.cellTypes.toList.map (·.variant)).Pairwise (· < ·)
  delays : ∀ c ∈ inst.cellTypes, c.delays.toList.Pairwise ByPorts

theorem Grouped.filled_sortTiming (h : inst.Grouped) :
    ∀ c ∈ (ChipBuilder.sortTiming inst).cellTypes.toList, c.delays.toList ≠ [] := by
  intro c hc
  simp only [ChipBuilder.sortTiming, List.mem_map, List.mem_mergeSort] at hc
  obtain ⟨cell, hcell, rfl⟩ := hc
  intro hnil
  have hlength := congrArg List.length hnil
  simp only [List.length_mergeSort, List.length_nil] at hlength
  exact h.filled cell hcell (List.length_eq_zero_iff.1 hlength)

theorem Grouped.sorted (h : inst.Grouped) : (ChipBuilder.sortTiming inst).Sorted := by
  have hperm := List.mergeSort_perm inst.cellTypes.toList fun a b => decide (a.variant ≤ b.variant)
  have hvariants : ((inst.cellTypes.toList.mergeSort fun a b =>
      decide (a.variant ≤ b.variant)).map (·.variant)).Pairwise (· < ·) := by
    have hle := @List.pairwise_mergeSort _ (fun a b : CellTiming => decide (a.variant ≤ b.variant))
      (fun a b c => by simpa using Nat.le_trans) (fun a b => by simpa using Nat.le_total _ _)
      inst.cellTypes.toList
    have hne := (hperm.map CellTiming.variant).nodup_iff.2 h.distinct
    rw [List.pairwise_map]
    apply ((List.pairwise_map.1 hne).and hle).imp
    intro a b hab
    exact Nat.lt_of_le_of_ne (of_decide_eq_true hab.2) hab.1
  constructor
  · simpa [ChipBuilder.sortTiming, Function.comp_def] using hvariants
  · intro c hc
    simp only [ChipBuilder.sortTiming, List.mem_toArray, List.mem_map] at hc
    obtain ⟨cell, -, rfl⟩ := hc
    have hpairs := @List.pairwise_mergeSort _ (fun a b : ArcDelay =>
      decide (a.toPort < b.toPort ∨ a.toPort = b.toPort ∧ a.fromPort ≤ b.fromPort))
      (fun a b c hab hbc => by
        simp only [decide_eq_true_eq] at hab hbc ⊢
        exact ByPorts.trans hab hbc)
      (fun a b => by simp only [Bool.or_eq_true, decide_eq_true_eq]; exact ByPorts.total a b)
      cell.delays.toList
    exact hpairs.imp of_decide_eq_true

theorem arcs_sortTiming : (ChipBuilder.sortTiming inst).arcs.Perm inst.arcs := by
  simp only [arcs, ChipBuilder.sortTiming, List.flatMap_map]
  apply List.Perm.flatMap (List.mergeSort_perm ..)
  intro c _
  exact (List.mergeSort_perm ..).map _

end InstanceTiming

/-! ### Owners of timing tables -/

def timingIndexAt (types : Array TileType) (tt : Nat) : Option Nat :=
  (types[tt]?).bind (·.timingIndex)

theorem timingIndexAt_set {types : Array TileType} {ty : TileType} {tt : Nat} (new : TileType)
    (hty : types[tt]? = some ty) (t : Nat) :
    timingIndexAt (types.setIfInBounds tt new) t =
      if t = tt then new.timingIndex else timingIndexAt types t := by
  rw [timingIndexAt, getElem?_set_of_getElem? hty]
  split <;> rfl

/-- Only a timing instance gives a tile type a timing table. -/
theorem TypesChange.timingIndexAt {ids : IdentTable} {types types' : Array TileType} {s : BuildStep}
    (h : TypesChange ids types s types') (hs : s.timed = none) (t : Nat) :
    timingIndexAt types' t = timingIndexAt types t := by
  cases h with
  | spare _ => rfl
  | add _ =>
    rw [Interconnect.timingIndexAt, Array.getElem?_push]
    split
    · next ht => simp [ht, Interconnect.timingIndexAt]
    · rfl
  | @change s tt ty ty' hty hchange =>
    rw [timingIndexAt_set _ hty]
    split
    · next ht =>
      have hsame : ty'.timingIndex = ty.timingIndex := by
        cases hchange with
        | timing _ => cases hs
        | _ => rfl
      rw [hsame, ht, Interconnect.timingIndexAt, hty]
      rfl
    · rfl

/-- Each of a number of tables belongs to one tile type. -/
structure Owned (indexOf : Nat → Option Nat) (count : Nat) : Prop where
  range : ∀ tt index, indexOf tt = some index → index < count
  owner : ∀ index, index < count → ∃ tt, indexOf tt = some index
  unique : ∀ tt tt' index, indexOf tt = some index → indexOf tt' = some index → tt = tt'

theorem Owned.congr {indexOf indexOf' : Nat → Option Nat} {count : Nat} (h : Owned indexOf count)
    (heq : ∀ t, indexOf' t = indexOf t) : Owned indexOf' count := by
  rwa [funext heq]

theorem Owned.open {indexOf indexOf' : Nat → Option Nat} {count tt : Nat} (h : Owned indexOf count)
    (hnone : indexOf tt = none) (heq : ∀ t, indexOf' t = if t = tt then some count else indexOf t) :
    Owned indexOf' (count + 1) := by
  constructor
  · intro t index ht
    rw [heq] at ht
    split at ht
    · obtain rfl := Option.some.inj ht
      omega
    · have hlt := h.range t index ht
      omega
  · intro index hindex
    by_cases hlast : index = count
    · exact ⟨tt, by rw [heq, if_pos rfl, hlast]⟩
    · obtain ⟨t, ht⟩ := h.owner index (by omega)
      refine ⟨t, ?_⟩
      rw [heq, if_neg, ht]
      intro htt
      rw [htt, hnone] at ht
      cases ht
  · intro t t' index ht ht'
    rw [heq] at ht ht'
    split at ht
    · next htt =>
      split at ht'
      · next htt' => exact htt.trans htt'.symm
      · obtain rfl := Option.some.inj ht
        exact absurd (h.range t' _ ht') (Nat.lt_irrefl _)
    · split at ht'
      · obtain rfl := Option.some.inj ht'
        exact absurd (h.range t _ ht) (Nat.lt_irrefl _)
      · exact h.unique t t' index ht ht'

/-! ### Recorded delays -/

/-- The arcs of an instance of a table, if there is one. -/
def arcsIn (tables : Array TimingTable) (index inst : Nat) : List (Ident × ArcDelay) :=
  (tables[index]?).toList.flatMap fun table =>
    (table.instances[inst]?).toList.flatMap (·.arcs)

/-- The arcs of an instance of a tile type. -/
def arcsAt (types : Array TileType) (tables : Array TimingTable) (tt inst : Nat) :
    List (Ident × ArcDelay) :=
  (timingIndexAt types tt).toList.flatMap fun index => arcsIn tables index inst

theorem arcsIn_pushInstance {tables : Array TimingTable} {index : Nat} {table : TimingTable}
    (htable : tables[index]? = some table) (k inst : Nat) :
    arcsIn (tables.setIfInBounds index ⟨table.instances.push ⟨#[]⟩⟩) k inst = arcsIn tables k inst :=
  flatMap_getElem?_setIfInBounds htable (flatMap_getElem?_push rfl inst) k

theorem arcsIn_pushTable (tables : Array TimingTable) (k inst : Nat) :
    arcsIn (tables.push ⟨#[]⟩) k inst = arcsIn tables k inst :=
  flatMap_getElem?_push (by simp) k

theorem arcsIn_of_getElem? {tables : Array TimingTable} {index inst : Nat} {table : TimingTable}
    {i : InstanceTiming} (htable : tables[index]? = some table)
    (hi : table.instances[inst]? = some i) : arcsIn tables index inst = i.arcs := by
  simp [arcsIn, htable, hi]

theorem arcsIn_setInstance {tables : Array TimingTable} {index inst : Nat} {table : TimingTable}
    {i new : InstanceTiming} (htable : tables[index]? = some table)
    (hi : table.instances[inst]? = some i) (k n : Nat) :
    arcsIn (tables.setIfInBounds index ⟨table.instances.setIfInBounds inst new⟩) k n =
      if k = index ∧ n = inst then new.arcs else arcsIn tables k n := by
  rw [arcsIn, getElem?_set_of_getElem? htable]
  by_cases hk : k = index
  · by_cases hn : n = inst
    · simp [hk, hn, getElem?_set_of_getElem? hi]
    · simp [hk, hn, getElem?_set_of_getElem? hi, arcsIn, htable]
  · simp [hk, arcsIn]

theorem arcsIn_sortTiming (tables : Array TimingTable) (k n : Nat) :
    (arcsIn (tables.map fun table => ⟨table.instances.map ChipBuilder.sortTiming⟩) k n).Perm
      (arcsIn tables k n) := by
  cases htable : tables[k]? with
  | none => simp [arcsIn, htable]
  | some table =>
    cases hinst : table.instances[n]? with
    | none => simp [arcsIn, htable, hinst]
    | some inst => simpa [arcsIn, htable, hinst] using InstanceTiming.arcs_sortTiming

namespace BuildStep

/-- The delay that a step records for an instance: variant, ports and time. -/
def delay? (tt inst : Nat) : BuildStep → Option (String × String × String × Int)
  | cellDelay t i variant fromPort toPort delay =>
    if t = tt ∧ i = inst then some (variant, fromPort, toPort, delay) else none
  | _ => none

/-- The delays recorded for an instance once its tile type has a timing table. -/
def delays (steps : List BuildStep) (tt inst : Nat) : List (String × String × String × Int) :=
  (steps.dropWhile (· ≠ .timingInstance tt)).filterMap (·.delay? tt inst)

theorem delays_append (steps : List BuildStep) (s : BuildStep) (tt inst : Nat) :
    delays (steps ++ [s]) tt inst = delays steps tt inst ++
      if .timingInstance tt ∈ steps then (s.delay? tt inst).toList else [] := by
  rw [delays, delays, List.dropWhile_append]
  by_cases hmem : .timingInstance tt ∈ steps
  · have hopen : (steps.dropWhile (· ≠ .timingInstance tt)).isEmpty = false := by
      rw [← Bool.not_eq_true, List.isEmpty_iff, List.dropWhile_eq_nil_iff]
      intro hall
      simpa using hall _ hmem
    rw [hopen, if_neg Bool.false_ne_true, if_pos hmem, List.filterMap_append]
    cases hs : s.delay? tt inst <;> simp [hs]
  · have hclosed : steps.dropWhile (· ≠ .timingInstance tt) = [] := by
      rw [List.dropWhile_eq_nil_iff]
      intro x hx
      exact decide_eq_true fun heq => hmem (heq ▸ hx)
    rw [hclosed, List.isEmpty_nil, if_pos rfl, if_neg hmem]
    by_cases hs : s = .timingInstance tt
    · simp [hs, delay?]
    · simp [hs]

theorem delays_append_of_none {steps : List BuildStep} {s : BuildStep} {tt inst : Nat}
    (h : s.delay? tt inst = none) : delays (steps ++ [s]) tt inst = delays steps tt inst := by
  rw [delays_append, h]
  split <;> simp

theorem delay?_of_timed {s : BuildStep} (h : s.timed = none) (tt inst : Nat) :
    s.delay? tt inst = none := by
  cases s with
  | cellDelay => cases h
  | _ => rfl

end BuildStep

/-! ### Arcs and recorded delays -/

/-- An arc with its names spelled out. -/
def IdentTable.spellArc (t : IdentTable) (arc : Ident × ArcDelay) :
    Option String × Option String × Option String × Int × Int :=
  (t.name? arc.1, t.name? arc.2.fromPort, t.name? arc.2.toPort, arc.2.minDelay, arc.2.maxDelay)

/-- A recorded delay is the least and the greatest of its arc. -/
def BuildStep.spelledDelay (delay : String × String × String × Int) :
    Option String × Option String × Option String × Int × Int :=
  (some delay.1, some delay.2.1, some delay.2.2.1, delay.2.2.2, delay.2.2.2)

/-- Arcs that are the recorded delays, in any order. -/
def IdentTable.SpellsArcs (t : IdentTable) (arcs : List (Ident × ArcDelay))
    (delays : List (String × String × String × Int)) : Prop :=
  (arcs.map t.spellArc).Perm (delays.map BuildStep.spelledDelay)

theorem IdentTable.SpellsArcs.exists_name {t : IdentTable} {arcs : List (Ident × ArcDelay)}
    {delays : List (String × String × String × Int)} (h : t.SpellsArcs arcs delays)
    {variant : Ident} {arc : ArcDelay} (harc : (variant, arc) ∈ arcs) :
    ∃ v f g, t.name? variant = some v ∧ t.name? arc.fromPort = some f ∧
      t.name? arc.toPort = some g := by
  obtain ⟨delay, -, heq⟩ := List.mem_map.1 (h.mem_iff.1 (List.mem_map_of_mem harc))
  simp only [BuildStep.spelledDelay, spellArc, Prod.mk.injEq] at heq
  exact ⟨_, _, _, heq.1.symm, heq.2.1.symm, heq.2.2.1.symm⟩

theorem IdentTable.SpellsArcs.of_name? {t t' : IdentTable} {arcs : List (Ident × ArcDelay)}
    {delays : List (String × String × String × Int)} (h : t.SpellsArcs arcs delays)
    (hkeep : ∀ i name, t.name? i = some name → t'.name? i = some name) :
    t'.SpellsArcs arcs delays := by
  have hsame : arcs.map t'.spellArc = arcs.map t.spellArc := by
    apply List.map_congr_left
    intro arc harc
    obtain ⟨v, f, g, hv, hf, hg⟩ := h.exists_name harc
    simp [spellArc, hv, hf, hg, hkeep _ _ hv, hkeep _ _ hf, hkeep _ _ hg]
  rw [SpellsArcs, hsame]
  exact h

/-- The timing tables, as the steps made so far have left them. -/
structure Timed (ids : IdentTable) (steps : List BuildStep) (types : Array TileType)
    (tables : Array TimingTable) : Prop where
  owned : Owned (timingIndexAt types) tables.size
  opened : ∀ tt, (timingIndexAt types tt).isSome ↔ .timingInstance tt ∈ steps
  grouped : ∀ table ∈ tables, ∀ inst ∈ table.instances, inst.Grouped
  arcs : ∀ tt inst, ids.SpellsArcs (arcsAt types tables tt inst) (BuildStep.delays steps tt inst)

namespace Timed

variable {ids : IdentTable} {before : List BuildStep} {types types' : Array TileType}
  {tables : Array TimingTable} {tt index : Nat}

theorem internAll (h : Timed ids before types tables) (names : List String) :
    Timed (ids.internAll names) before types tables := by
  constructor
  · exact h.owned
  · exact h.opened
  · exact h.grouped
  · exact fun t inst => (h.arcs t inst).of_name? fun _ _ => IdentTable.name?_internAll_of_name?

theorem quiet {s : BuildStep} (h : Timed ids before types tables)
    (hindex : ∀ t, timingIndexAt types' t = timingIndexAt types t)
    (hopened : ∀ t, s = .timingInstance t → .timingInstance t ∈ before)
    (hdelay : ∀ t inst, .timingInstance t ∈ before → s.delay? t inst = none) :
    Timed ids (before ++ [s]) types' tables := by
  constructor
  · exact h.owned.congr hindex
  · intro t
    rw [hindex, h.opened, List.mem_append, List.mem_singleton]
    constructor
    · exact .inl
    · intro hmem
      rcases hmem with hmem | heq
      · exact hmem
      · exact hopened t heq.symm
  · exact h.grouped
  · intro t inst
    have hsame : BuildStep.delays (before ++ [s]) t inst = BuildStep.delays before t inst := by
      rw [BuildStep.delays_append]
      split
      · next hmem => simp [hdelay t inst hmem]
      · simp
    rw [hsame, arcsAt, hindex]
    exact h.arcs t inst

theorem openTable {ty : TileType} (h : Timed ids before types tables)
    (hty : types[tt]? = some ty) (hnone : ty.timingIndex = none) :
    Timed ids (before ++ [.timingInstance tt])
      (types.setIfInBounds tt { ty with timingIndex := some tables.size }) (tables.push ⟨#[]⟩) := by
  have hclosed : timingIndexAt types tt = none := by
    rw [timingIndexAt, hty, Option.bind_some, hnone]
  have hindex := timingIndexAt_set { ty with timingIndex := some tables.size } hty
  constructor
  · rw [Array.size_push]
    exact h.owned.open hclosed hindex
  · intro t
    rw [hindex, List.mem_append, List.mem_singleton, ← h.opened]
    split
    · next ht => simp [ht]
    · next ht => simp [ht]
  · intro table htable inst hinst
    rcases Array.mem_push.1 htable with htable | rfl
    · exact h.grouped table htable inst hinst
    · simp at hinst
  · intro t inst
    have hsame : arcsAt (types.setIfInBounds tt { ty with timingIndex := some tables.size })
        (tables.push ⟨#[]⟩) t inst = arcsAt types tables t inst := by
      simp only [arcsAt, hindex, arcsIn_pushTable]
      split
      · next ht => simp [ht, hclosed, arcsIn]
      · rfl
    rw [hsame, BuildStep.delays_append_of_none rfl]
    exact h.arcs t inst

theorem pushInstance {table : TimingTable} (h : Timed ids before types tables)
    (htable : tables[index]? = some table) :
    Timed ids before types (tables.setIfInBounds index ⟨table.instances.push ⟨#[]⟩⟩) := by
  constructor
  · rw [Array.size_setIfInBounds]
    exact h.owned
  · exact h.opened
  · intro new hnew inst hinst
    obtain ⟨k, hk⟩ := Array.mem_iff_getElem?.1 hnew
    obtain ⟨old, hold, ⟨-, rfl, rfl⟩ | ⟨-, rfl⟩⟩ := exists_of_getElem?_set htable hk
    · rcases Array.mem_push.1 hinst with hinst | rfl
      · exact h.grouped _ (Array.mem_of_getElem? hold) inst hinst
      · exact InstanceTiming.grouped_new
    · exact h.grouped _ (Array.mem_of_getElem? hold) inst hinst
  · intro t inst
    simp only [arcsAt, arcsIn_pushInstance htable]
    exact h.arcs t inst

theorem record {inst : Nat} {variant fromPort toPort : String} {delay : Int} {table : TimingTable}
    {i : InstanceTiming} {v f g : Ident} (h : Timed ids before types tables)
    (hindex : timingIndexAt types tt = some index) (htable : tables[index]? = some table)
    (hi : table.instances[inst]? = some i) (hv : ids.name? v = some variant)
    (hf : ids.name? f = some fromPort) (hg : ids.name? g = some toPort) :
    Timed ids (before ++ [.cellDelay tt inst variant fromPort toPort delay]) types
      (tables.setIfInBounds index ⟨table.instances.setIfInBounds inst
        (ChipBuilder.addArc i v ⟨f, g, delay, delay⟩)⟩) := by
  have hmem : .timingInstance tt ∈ before := (h.opened tt).1 (by rw [hindex]; rfl)
  constructor
  · rw [Array.size_setIfInBounds]
    exact h.owned
  · intro t
    rw [h.opened]
    simp
  · intro new hnew entry hentry
    obtain ⟨k, hk⟩ := Array.mem_iff_getElem?.1 hnew
    obtain ⟨old, hold, ⟨-, rfl, rfl⟩ | ⟨-, rfl⟩⟩ := exists_of_getElem?_set htable hk
    · obtain ⟨n, hn⟩ := Array.mem_iff_getElem?.1 hentry
      obtain ⟨e, he, ⟨-, rfl, rfl⟩ | ⟨-, rfl⟩⟩ := exists_of_getElem?_set hi hn
      · exact (h.grouped _ (Array.mem_of_getElem? hold) _ (Array.mem_of_getElem? he)).addArc
      · exact h.grouped _ (Array.mem_of_getElem? hold) _ (Array.mem_of_getElem? he)
    · exact h.grouped _ (Array.mem_of_getElem? hold) entry hentry
  · intro t k
    have hold := h.arcs t k
    rw [BuildStep.delays_append]
    by_cases hhere : t = tt ∧ k = inst
    · obtain ⟨rfl, rfl⟩ := hhere
      simp only [arcsAt, hindex, Option.toList_some, List.flatMap_singleton,
        arcsIn_of_getElem? htable hi] at hold
      have hnew : arcsAt types (tables.setIfInBounds index ⟨table.instances.setIfInBounds k
          (ChipBuilder.addArc i v ⟨f, g, delay, delay⟩)⟩) t k =
          (ChipBuilder.addArc i v ⟨f, g, delay, delay⟩).arcs := by
        simp [arcsAt, hindex, arcsIn_setInstance htable hi]
      rw [hnew, if_pos hmem, IdentTable.SpellsArcs]
      apply (InstanceTiming.arcs_addArc.map _).trans
      rw [List.map_append, List.map_append]
      apply List.Perm.append hold
      simp [BuildStep.delay?, BuildStep.spelledDelay, IdentTable.spellArc, hv, hf, hg]
    · have hnone : (BuildStep.cellDelay tt inst variant fromPort toPort delay).delay? t k = none :=
        if_neg fun heq => hhere ⟨heq.1.symm, heq.2.symm⟩
      have hsame : arcsAt types (tables.setIfInBounds index ⟨table.instances.setIfInBounds inst
          (ChipBuilder.addArc i v ⟨f, g, delay, delay⟩)⟩) t k = arcsAt types tables t k := by
        cases ht : timingIndexAt types t with
        | none => simp [arcsAt, ht]
        | some other =>
          have hother : ¬ (other = index ∧ k = inst) := by
            intro heq
            exact hhere ⟨h.owned.unique t tt index (heq.1 ▸ ht) hindex, heq.2⟩
          simp [arcsAt, ht, arcsIn_setInstance htable hi, hother]
      rw [hsame, hnone, Option.toList_none, ite_self, List.append_nil]
      exact hold

/-- What a step makes of the timing tables. -/
theorem step {timing timing' : Option TimingData} {s : BuildStep}
    (h : Timed ids before types (TimingData.tablesOf timing)) (htypes : TypesChange ids types s types')
    (htiming : TimingChange ids types timing s types' timing') :
    Timed ids (before ++ [s]) types' (TimingData.tablesOf timing') := by
  cases htiming with
  | spare hs =>
    apply h.quiet (htypes.timingIndexAt hs)
    · intro t heq
      rw [heq] at hs
      cases hs
    · exact fun t inst _ => BuildStep.delay?_of_timed hs t inst
  | @add tt index ty tables table hty hindex htable =>
    apply Timed.pushInstance _ htable
    rcases hindex with ⟨hindex, rfl⟩ | ⟨hnone, rfl, rfl⟩
    · have hsame (t : Nat) : timingIndexAt (types.setIfInBounds tt { ty with
          timingIndex := some index }) t = timingIndexAt types t := by
        rw [timingIndexAt_set _ hty]
        split
        · next ht => rw [ht, timingIndexAt, hty, Option.bind_some, hindex]
        · rfl
      apply h.quiet hsame
      · intro t heq
        obtain rfl := BuildStep.timingInstance.inj heq
        exact (h.opened tt).1 (by rw [timingIndexAt, hty, Option.bind_some, hindex]; rfl)
      · exact fun _ _ _ => rfl
    · exact h.openTable hty hnone
  | @ignored tt inst variant fromPort toPort delay ty hty hnone =>
    have hclosed : .timingInstance tt ∉ before := by
      rw [← h.opened, timingIndexAt, hty, Option.bind_some]
      rcases hnone with hnone | rfl
      · simp [hnone]
      · intro hsome
        obtain ⟨index, hindex⟩ := Option.isSome_iff_exists.1 hsome
        have hlt := h.owned.range tt index (by rw [timingIndexAt, hty, Option.bind_some, hindex])
        exact Nat.not_lt_zero index hlt
    apply h.quiet (fun _ => rfl)
    · exact fun _ heq => by cases heq
    · intro t k hmem
      apply if_neg
      intro heq
      exact hclosed (heq.1 ▸ hmem)
  | arc hty hindex htiming htable hi hv hf hg =>
    subst htiming
    exact h.record (by rw [timingIndexAt, hty, Option.bind_some, hindex]) htable hi hv hf hg

end Timed

theorem timed_start (ids : IdentTable) {types : Array TileType}
    (h : ∀ ty ∈ types, ty.timingIndex = none) : Timed ids [] types #[] := by
  have hnone (t : Nat) : timingIndexAt types t = none := by
    rw [timingIndexAt, Option.bind_eq_none_iff]
    exact fun ty hty => h ty (Array.mem_of_getElem? hty)
  constructor
  · constructor <;> simp [hnone]
  · simp [hnone]
  · simp
  · intro tt inst
    simp [arcsAt, hnone, BuildStep.delays, IdentTable.SpellsArcs]

theorem ChipBuilder.run_timed {b b' : ChipBuilder} {steps : List BuildStep}
    {outs : List (Option Nat)} (hb : Timed b.ids [] b.tileTypes (TimingData.tablesOf b.timing))
    (h : b.run steps = .ok (outs, b')) :
    Timed b'.ids steps b'.tileTypes (TimingData.tablesOf b'.timing) := by
  apply run_keeps (fun steps b => Timed b.ids steps b.tileTypes (TimingData.tablesOf b.timing)) _ hb h
  intro before b s b' hb heffect
  have hgrown := heffect.ids ▸ hb.internAll s.names
  exact hgrown.step heffect.types heffect.timing

end Interconnect
