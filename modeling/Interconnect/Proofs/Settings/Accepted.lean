import Interconnect.Proofs.Ownership.Run
import Interconnect.Settings.Document
/-!
# Accepted settings

Settings that are read from a text fit their words, and those that make no sense are refused. A context
takes over its tuning from settings, and has it until others are applied.
-/
namespace Interconnect

namespace RunSettings

variable {s : RunSettings}

/-- The numbers of settings fit the words that they are read as. -/
structure FitsWords (s : RunSettings) : Prop where
  penalty : FitsWord s.ripupPenalty
  cluster : s.estimator.clusterBels < 4294967296
  threshold : FitsWord s.estimator.boxThreshold
  price : FitsWord s.estimator.boxCostPerUnit

/-- What settings are checked for. The price of leaving a box is not. -/
structure MakesSense (s : RunSettings) : Prop where
  chipFile : s.chipFile.isEmpty = false
  placer : ∃ kind, s.placerKind = .ok kind
  penalty : 0 ≤ s.ripupPenalty
  cluster : 0 < s.estimator.clusterBels
  threshold : 0 ≤ s.estimator.boxThreshold

theorem check_eq_ok_iff : s.check = .ok () ↔ s.MakesSense := by
  simp only [check, throw, throwThe, MonadExceptOf.throw, bind, Except.bind, pure, Except.pure]
  constructor
  · intro h
    split at h
    · cases h
    · next hfile =>
      split at h
      · cases h
      · next kind hkind =>
        split at h
        · cases h
        · next hpenalty =>
          split at h
          · cases h
          · next hcluster =>
            split at h
            · cases h
            · next hthreshold =>
              exact ⟨by simpa using hfile, ⟨kind, hkind⟩, Int.not_lt.1 hpenalty,
                Nat.pos_of_ne_zero hcluster, Int.not_lt.1 hthreshold⟩
  · intro h
    obtain ⟨kind, hkind⟩ := h.placer
    rw [placerKind] at hkind
    rw [if_neg (by simp [h.chipFile]), hkind]
    dsimp only
    rw [if_neg (Int.not_lt.2 h.penalty), if_neg (Nat.ne_of_gt h.cluster),
      if_neg (Int.not_lt.2 h.threshold)]

end RunSettings

namespace Settings

open Toml

variable {top : Entries} {s : RunSettings} {v : Value} {text : String}

theorem integer_bounds {least greatest i : Int} (h : integer least greatest v = some i) :
    least ≤ i ∧ i ≤ greatest := by
  cases v with
  | integer j =>
    obtain ⟨hj, hij⟩ := Option.ite_none_right_eq_some.1 h
    obtain rfl := Option.some.inj hij
    exact hj
  | _ => cases h

theorem fitsWord_of_signed32 {i : Int} (h : signed32 v = some i) : FitsWord i := by
  obtain ⟨hleast, hgreatest⟩ := integer_bounds h
  exact ⟨hleast, by omega⟩

theorem lt_of_unsigned32 {n : Nat} (h : unsigned32 v = some n) : n < 4294967296 := by
  obtain ⟨i, hi, rfl⟩ := Option.map_eq_some_iff.1 h
  obtain ⟨hleast, hgreatest⟩ := integer_bounds hi
  omega

theorem Fields.read_of {α : Type} {P : α → Prop} {f : Fields} {name : String} {place : Nat}
    {read : Value → Option α} {default a : α} (h : f.read name place read default = some a)
    (hdefault : P default) (hread : ∀ {v a}, read v = some a → P a) : P a := by
  unfold Fields.read at h
  split at h
  · exact hread h
  · obtain rfl := Option.some.inj h
    exact hdefault

theorem fitsWords_of_ofEntries? (h : ofEntries? top = some s) : s.FitsWords := by
  simp only [ofEntries?, bind, Option.bind_eq_some_iff] at h
  obtain ⟨device, -, place, -, route, -, estimator, -, file, -, placer, -, penalty, hpenalty, cluster, hcluster,
    threshold, hthreshold, price, hprice, h⟩ := h
  obtain rfl := Option.some.inj h
  constructor
  · exact Fields.read_of hpenalty (by decide) fitsWord_of_signed32
  · exact Fields.read_of (P := (· < 4294967296)) hcluster (by decide) lt_of_unsigned32
  · exact Fields.read_of hthreshold (by decide) fitsWord_of_signed32
  · exact Fields.read_of hprice (by decide) fitsWord_of_signed32

theorem accepted_of_ofText (h : ofText text = .ok s) : s.FitsWords ∧ s.MakesSense := by
  unfold ofText at h
  split at h
  · cases h
  · split at h
    · cases h
    · next settings hsettings =>
      cases hcheck : settings.check with
      | error e =>
        rw [hcheck] at h
        cases h
      | ok u =>
        rw [hcheck] at h
        obtain rfl := Except.ok.inj h
        exact ⟨fitsWords_of_ofEntries? hsettings, RunSettings.check_eq_ok_iff.1 hcheck⟩

end Settings

/-! ### Tuning -/

/-- A text that names a device and sets one field of the estimator. -/
def estimatorText (field value : String) : String :=
  "[device]\nchipdb = \"a.bin\"\n\n[estimator]\n" ++ field ++ " = " ++ value ++ "\n"

/-- A context has the tuning of settings. -/
structure Context.TunedBy (c : Context) (s : RunSettings) : Prop where
  estimator : c.estimator = s.estimator
  penalty : c.ripupPenalty = s.ripupPenalty

theorem Context.tunedBy_of_applySettings {c c' : Context} {s : RunSettings}
    (h : c.applySettings s = .ok c') : c'.TunedBy s := by
  obtain ⟨placer, -, h⟩ := bind_eq_ok_iff.1 h
  obtain rfl := Except.ok.inj h
  exact ⟨rfl, rfl⟩

/-- Whether a request applies no settings. -/
def Act.LeavesTuning : Act → Prop
  | applySettings _ => False
  | _ => True

theorem Run.tunedBy {c c' : Context} {s : RunSettings} (hc : c.Coherent) (hs : c.TunedBy s)
    (h : Run (fun _ a => a.LeavesTuning) c c') : c'.TunedBy s := by
  induction h with
  | start => exact hs
  | step hrun ha hperform ih =>
    rcases (Act.perform_apart (hrun.coherent hc) hperform).2 with ⟨hestimator, hpenalty⟩ | ⟨_, rfl, -⟩
    · exact ⟨hestimator.trans ih.estimator, hpenalty.trans ih.penalty⟩
    · exact ha.elim

/-- Settings that make sense are applied by a request, and no later request but another of the kind changes
what they tuned. -/
theorem Act.performAll_tunedBy {c c' : Context} {s : RunSettings} {as : List Act} (hc : c.Coherent)
    (hs : s.MakesSense) (has : ∀ a ∈ as, a.LeavesTuning)
    (h : Act.performAll c (.applySettings s :: as) = .ok c') : c'.TunedBy s := by
  obtain ⟨kind, hkind⟩ := hs.placer
  obtain ⟨applied, hfirst, hrest⟩ := bind_eq_ok_iff.1 h
  have happlies : c.applySettings s = .ok applied := by
    rw [perform, Context.applySettings, hkind] at hfirst
    obtain rfl := Except.ok.inj hfirst
    rw [Context.applySettings, hkind]
    rfl
  refine Run.tunedBy (perform_coherent hc hfirst) (Context.tunedBy_of_applySettings happlies) ?_
  exact Run.start.performAll (fun _ => has) hrest

end Interconnect
