import Interconnect.Proofs.Building.Finish
import Interconnect.Proofs.Timing.Lookup
/-!
# Delays that a record holds

A delay that is recorded for an instance is held by the record if the instance was there already, and it
is the only kind of delay that a record holds. A step that names an instance to come is refused once its
tile type has a timing table, and forgotten before.
-/
namespace Interconnect

namespace BuildStep

/-- The delays recorded for an instance after it was added, with the number of instances that its tile
type has so far. -/
def recordedFrom (tt inst : Nat) : Nat → List BuildStep → List (String × String × String × Int)
  | _, [] => []
  | count, s :: steps =>
    (if inst < count then (s.delay? tt inst).toList else []) ++
      recordedFrom tt inst (if s = .timingInstance tt then count + 1 else count) steps

/-- The delays recorded for an instance after it was added: variant, ports and time. -/
def recorded (steps : List BuildStep) (tt inst : Nat) : List (String × String × String × Int) :=
  recordedFrom tt inst 0 steps

/-- Whether each arc of an instance has one delay: none was recorded twice under the same variant and
ports. -/
def RecordedOnce (steps : List BuildStep) (tt inst : Nat) : Prop :=
  ((recorded steps tt inst).map fun x => (x.1, x.2.1, x.2.2.1)).Nodup

theorem recordedFrom_append (steps : List BuildStep) (s : BuildStep) (tt inst count : Nat) :
    recordedFrom tt inst count (steps ++ [s]) = recordedFrom tt inst count steps ++
      if inst < count + steps.count (.timingInstance tt) then (s.delay? tt inst).toList else [] := by
  induction steps generalizing count with
  | nil =>
    simp only [List.nil_append, recordedFrom, List.count_nil, Nat.add_zero, List.append_nil]
    rfl
  | cons first steps ih =>
    rw [List.cons_append, recordedFrom, ih, recordedFrom, List.append_assoc, List.count_cons]
    by_cases hfirst : first = .timingInstance tt
    · simp only [hfirst, if_true, beq_self_eq_true, Nat.add_assoc, Nat.add_comm 1]
    · simp [hfirst]

theorem recorded_append (steps : List BuildStep) (s : BuildStep) (tt inst : Nat) :
    recorded (steps ++ [s]) tt inst = recorded steps tt inst ++
      if inst < steps.count (.timingInstance tt) then (s.delay? tt inst).toList else [] := by
  simpa [recorded] using recordedFrom_append steps s tt inst 0

end BuildStep

theorem TimingData.tablesOf_some (t : TimingData) : tablesOf (some t) = t.tables := rfl

def instancesAt (types : Array TileType) (tables : Array TimingTable) (tt : Nat) : Nat :=
  (((timingIndexAt types tt).bind (tables[·]?)).map (·.instances.size)).getD 0

/-- The timing tables hold what was recorded for instances that were there. -/
structure Recorded (steps : List BuildStep) (types : Array TileType) (tables : Array TimingTable) :
    Prop where
  instances : ∀ tt, instancesAt types tables tt = steps.count (.timingInstance tt)
  delays : ∀ tt inst, BuildStep.delays steps tt inst = BuildStep.recorded steps tt inst

namespace Recorded

variable {ids : IdentTable} {before : List BuildStep} {types types' : Array TileType}
  {timing timing' : Option TimingData} {s : BuildStep}

theorem instancesAt_step (h : Timed ids before types (TimingData.tablesOf timing))
    (htypes : TypesChange ids types s types') (htiming : TimingChange ids types timing s types' timing')
    (tt : Nat) : instancesAt types' (TimingData.tablesOf timing') tt =
      instancesAt types (TimingData.tablesOf timing) tt + if s = .timingInstance tt then 1 else 0 := by
  cases htiming with
  | spare hs =>
    have hother : s ≠ .timingInstance tt := by
      rintro rfl
      cases hs
    rw [instancesAt, htypes.timingIndexAt hs, if_neg hother]
    rfl
  | @add t index ty tables table hty hindex htable =>
    have hget (k : Nat) := getElem?_set_of_getElem? htable ⟨table.instances.push ⟨#[]⟩⟩ k
    have hold : timingIndexAt types t = ty.timingIndex := by rw [timingIndexAt, hty, Option.bind_some]
    rw [instancesAt, timingIndexAt_set _ hty]
    by_cases htt : tt = t
    · subst htt
      rw [if_pos rfl, if_pos rfl, instancesAt, hold, Option.bind_some]
      simp only [TimingData.tablesOf_some, hget, if_true, Option.map_some, Option.getD_some, Array.size_push]
      rcases hindex with ⟨hindex, rfl⟩ | ⟨hnone, rfl, rfl⟩
      · rw [hindex, Option.bind_some, htable]
        rfl
      · obtain rfl : ⟨#[]⟩ = table := by simpa using htable
        rw [hnone]
        rfl
    · have hother : BuildStep.timingInstance t ≠ .timingInstance tt :=
        fun heq => htt (BuildStep.timingInstance.inj heq).symm
      rw [if_neg htt, if_neg hother, Nat.add_zero, instancesAt]
      cases hk : timingIndexAt types tt with
      | none => rfl
      | some k =>
        have hlt := h.owned.range tt k hk
        have hne : k ≠ index := by
          rintro rfl
          rcases hindex with ⟨hindex, -⟩ | ⟨-, rfl, -⟩
          · exact htt (h.owned.unique tt t k hk (hold.trans hindex))
          · exact Nat.lt_irrefl _ hlt
        have hsame : tables[k]? = (TimingData.tablesOf timing)[k]? := by
          rcases hindex with ⟨-, rfl⟩ | ⟨-, -, rfl⟩
          · rfl
          · rw [Array.getElem?_push, if_neg (Nat.ne_of_lt hlt)]
        simp only [TimingData.tablesOf_some, Option.bind_some, hget, if_neg hne, hsame]
  | ignored => simp only [reduceCtorEq, if_false, Nat.add_zero]
  | @arc t inst index variant fromPort toPort delay ty data table i _ _ _ hty hindex htiming htable =>
    subst htiming
    simp only [reduceCtorEq, if_false, Nat.add_zero]
    rw [instancesAt, instancesAt]
    cases timingIndexAt types tt with
    | none => rfl
    | some k =>
      simp only [TimingData.tablesOf_some, Option.bind_some, getElem?_set_of_getElem? htable]
      by_cases hk : k = index
      · simp [hk, htable]
      · simp [hk]

/-- Where a step records a delay, a table has been opened exactly if the instance is there. -/
theorem mem_iff_of_delay? (h : Timed ids before types (TimingData.tablesOf timing))
    (hcount : ∀ tt, instancesAt types (TimingData.tablesOf timing) tt =
      before.count (.timingInstance tt))
    (htiming : TimingChange ids types timing s types' timing') {tt inst : Nat}
    (hdelay : s.delay? tt inst ≠ none) :
    .timingInstance tt ∈ before ↔ inst < before.count (.timingInstance tt) := by
  have hmem (hlt : inst < before.count (.timingInstance tt)) : .timingInstance tt ∈ before :=
    List.count_pos_iff.1 (Nat.zero_lt_of_lt hlt)
  cases htiming with
  | spare hs => exact absurd (BuildStep.delay?_of_timed hs tt inst) hdelay
  | add => exact absurd rfl hdelay
  | @ignored t n variant fromPort toPort delay ty hty hnone =>
    obtain ⟨rfl, rfl⟩ : t = tt ∧ n = inst := not_not.1 fun hne => hdelay (if_neg hne)
    refine ⟨fun hopen => ?_, hmem⟩
    obtain ⟨index, hindex⟩ := Option.isSome_iff_exists.1 ((h.opened t).2 hopen)
    have hlt := h.owned.range t index hindex
    rw [timingIndexAt, hty, Option.bind_some] at hindex
    rcases hnone with hnone | rfl
    · rw [hnone] at hindex
      cases hindex
    · exact absurd hlt (Nat.not_lt_zero index)
  | @arc t n index variant fromPort toPort delay ty data table i _ _ _ hty hindex htiming htable hi =>
    subst htiming
    obtain ⟨rfl, rfl⟩ : t = tt ∧ n = inst := not_not.1 fun hne => hdelay (if_neg hne)
    have hlt : n < table.instances.size := (Array.getElem?_eq_some_iff.1 hi).1
    have hsize : instancesAt types data.tables t = table.instances.size := by
      rw [instancesAt, timingIndexAt, hty, Option.bind_some, hindex, Option.bind_some, htable]
      rfl
    have hthere : n < before.count (.timingInstance t) := by
      rw [← hcount t, TimingData.tablesOf_some, hsize]
      exact hlt
    exact iff_of_true (hmem hthere) hthere

theorem step (h : Timed ids before types (TimingData.tablesOf timing))
    (hr : Recorded before types (TimingData.tablesOf timing)) (htypes : TypesChange ids types s types')
    (htiming : TimingChange ids types timing s types' timing') :
    Recorded (before ++ [s]) types' (TimingData.tablesOf timing') := by
  constructor
  · intro tt
    rw [instancesAt_step h htypes htiming, hr.instances, List.count_append, List.count_singleton]
    simp
  · intro tt inst
    rw [BuildStep.delays_append, BuildStep.recorded_append, hr.delays]
    by_cases hdelay : s.delay? tt inst = none
    · simp [hdelay]
    · rw [if_congr (mem_iff_of_delay? h hr.instances htiming hdelay) rfl rfl]

end Recorded

/-- A record that is built holds the delays that were recorded for instances that were there. -/
theorem delays_eq_recorded {name : String} {width height : Nat} {steps : List BuildStep}
    {outs : List (Option Nat)} {r : ChipRecord}
    (h : ChipRecord.build name width height steps = .ok (outs, r)) (tt inst : Nat) :
    BuildStep.delays steps tt inst = BuildStep.recorded steps tt inst := by
  obtain ⟨⟨outs', b⟩, hrun, -⟩ := bind_eq_ok_iff.1 h
  have hblank := ChipBuilder.start_blank name width height
  have hkept := ChipBuilder.run_keeps (fun steps b =>
    Timed b.ids steps b.tileTypes (TimingData.tablesOf b.timing) ∧
      Recorded steps b.tileTypes (TimingData.tablesOf b.timing)) ?_ ⟨hblank.timed, ?_⟩ hrun
  · exact hkept.2.delays tt inst
  · rintro before b s b' ⟨htimed, hrecorded⟩ heffect
    have hgrown := heffect.ids ▸ htimed.internAll s.names
    exact ⟨hgrown.step heffect.types heffect.timing, hrecorded.step hgrown heffect.types heffect.timing⟩
  · constructor
    · intro tt
      rw [hblank.timing, instancesAt]
      cases timingIndexAt _ tt <;> rfl
    · exact fun _ _ => rfl

/-! ### What an instance answers -/

namespace ChipRecord

variable {r : ChipRecord} {steps : List BuildStep} {ids : IdentTable} {tt inst : Nat}
  {variant fromPort toPort : Ident} {delay : Int}

def timingOf (r : ChipRecord) (tt inst : Nat) : Option InstanceTiming :=
  (timingIndexAt r.tileTypes tt).bind fun index => (r.timingTables[index]?).bind (·.instances[inst]?)

theorem arcsAt_eq_timingOf : arcsAt r.tileTypes r.timingTables tt inst =
    (r.timingOf tt inst).toList.flatMap (·.arcs) := by
  rw [arcsAt, timingOf]
  cases timingIndexAt r.tileTypes tt with
  | none => rfl
  | some index =>
    rw [Option.toList_some, List.flatMap_singleton, arcsIn, Option.bind_some]
    cases r.timingTables[index]? with
    | none => rfl
    | some table => rw [Option.toList_some, List.flatMap_singleton, Option.bind_some]

theorem mem_arcsAt_iff (h : ids.SpellsArcs (arcsAt r.tileTypes r.timingTables tt inst)
    (BuildStep.recorded steps tt inst)) :
    (∃ arc, (variant, arc) ∈ arcsAt r.tileTypes r.timingTables tt inst ∧
      arc.fromPort = fromPort ∧ arc.toPort = toPort ∧ arc.maxDelay = delay) ↔
    ∃ v f t, ids.name? variant = some v ∧ ids.name? fromPort = some f ∧ ids.name? toPort = some t ∧
      (v, f, t, delay) ∈ BuildStep.recorded steps tt inst := by
  constructor
  · rintro ⟨arc, harc, rfl, rfl, rfl⟩
    obtain ⟨⟨v, f, t, time⟩, hmem, heq⟩ := List.mem_map.1 (h.mem_iff.1 (List.mem_map_of_mem harc))
    simp only [BuildStep.spelledDelay, IdentTable.spellArc, Prod.mk.injEq] at heq
    obtain ⟨hv, hf, ht, -, htime⟩ := heq
    exact ⟨v, f, t, hv.symm, hf.symm, ht.symm, htime ▸ hmem⟩
  · rintro ⟨v, f, t, hv, hf, ht, hmem⟩
    obtain ⟨⟨variant', arc⟩, harc, heq⟩ := List.mem_map.1 (h.mem_iff.2 (List.mem_map_of_mem hmem))
    simp only [BuildStep.spelledDelay, IdentTable.spellArc, Prod.mk.injEq] at heq
    obtain ⟨hv', hf', ht', -, htime⟩ := heq
    obtain rfl := IdentTable.eq_of_name? hv hv'
    exact ⟨arc, harc, IdentTable.eq_of_name? hf' hf, IdentTable.eq_of_name? ht' ht, htime⟩

theorem distinct_of_once (h : ids.SpellsArcs (arcsAt r.tileTypes r.timingTables tt inst)
    (BuildStep.recorded steps tt inst))
    (honce : BuildStep.RecordedOnce steps tt inst)
    {i : InstanceTiming} (hi : r.timingOf tt inst = some i) : i.Distinct := by
  rw [arcsAt_eq_timingOf, hi, Option.toList_some, List.flatMap_singleton] at h
  have hinjective : Function.Injective fun x : String × String × String =>
      (some x.1, some x.2.1, some x.2.2) := by
    intro x y hxy
    simp only [Prod.mk.injEq, Option.some.injEq] at hxy
    exact Prod.ext hxy.1 (Prod.ext hxy.2.1 hxy.2.2)
  have hspelled : ((i.arcs.map ids.spellArc).map fun x => (x.1, x.2.1, x.2.2.1)).Nodup := by
    apply (h.map _).nodup_iff.2
    have hnodup := List.Nodup.map hinjective honce
    rw [List.map_map] at hnodup ⊢
    exact hnodup
  rw [List.map_map] at hspelled
  apply List.Nodup.of_map fun x => (ids.name? x.1, ids.name? x.2.2, ids.name? x.2.1)
  rw [List.map_map]
  exact hspelled

theorem WellBuilt.stored_iff_recorded (h : r.WellBuilt steps)
    (harcs : ids.SpellsArcs (arcsAt r.tileTypes r.timingTables tt inst)
      (BuildStep.recorded steps tt inst))
    (honce : BuildStep.RecordedOnce steps tt inst) :
    ((r.timingOf tt inst).bind fun i => i.stored variant fromPort toPort) = some delay ↔
      ∃ v f t, ids.name? variant = some v ∧ ids.name? fromPort = some f ∧
        ids.name? toPort = some t ∧ (v, f, t, delay) ∈ BuildStep.recorded steps tt inst := by
  rw [← mem_arcsAt_iff harcs, arcsAt_eq_timingOf]
  cases hi : r.timingOf tt inst with
  | none => simp
  | some i =>
    have hsorted : i.Sorted := by
      obtain ⟨index, -, hi⟩ := Option.bind_eq_some_iff.1 hi
      obtain ⟨table, htable, hi⟩ := Option.bind_eq_some_iff.1 hi
      exact h.sorted table (Array.mem_of_getElem? htable) i (Array.mem_of_getElem? hi)
    have hdistinct := distinct_of_once harcs honce hi
    rw [Option.bind_some, hsorted.stored_eq_some_iff hdistinct, Option.toList_some,
      List.flatMap_singleton]

end ChipRecord
end Interconnect
