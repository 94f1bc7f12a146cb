import Interconnect.Proofs.Device.Lookup
import Interconnect.Routing.Dedicated
/-!
# How a pass ends

A pass comes through, or fails and leaves behind what it has done. A rule for each way of putting
steps together, and one for each step, says what holds then.
-/
namespace Interconnect

/-- A pass that comes through ends in a state of the first kind, and one that fails leaves a state of
the second kind, for a reason that goes with it. -/
def Ends (P : PassState → Prop) (F : RouteError → PassState → Prop) : Except Halt PassState → Prop
  | .ok s => P s
  | .error (.failed e s) => F e s
  | .error (.fault _) => True

/-- What the steps of a walk over a list yield, until one of them fails. -/
def collect {α β : Type} (step : PassState → α → Except Halt PassState)
    (yield : PassState → PassState → α → List β) : PassState → List α → List β
  | _, [] => []
  | s, x :: xs =>
    match step s x with
    | .ok s' => yield s s' x ++ collect step yield s' xs
    | .error _ => []

namespace Ends

variable {P P' : PassState → Prop} {F F' : RouteError → PassState → Prop}
  {r : Except Halt PassState} {s : PassState}

theorem mono (h : Ends P F r) (hP : ∀ s, P s → P' s) (hF : ∀ e s, F e s → F' e s) :
    Ends P' F' r := by
  cases r with
  | ok s => exact hP s h
  | error halt =>
    cases halt with
    | fault f => trivial
    | failed e s => exact hF e s h

theorem and (h : Ends P F r) (h' : Ends P' F' r) :
    Ends (fun s => P s ∧ P' s) (fun e s => F e s ∧ F' e s) r := by
  cases r with
  | ok s => exact ⟨h, h'⟩
  | error halt =>
    cases halt with
    | fault f => trivial
    | failed e s => exact ⟨h, h'⟩

theorem bind {next : PassState → Except Halt PassState} (h : Ends P F r)
    (hnext : ∀ s, P s → Ends P' F (next s)) : Ends P' F (r >>= next) := by
  cases r with
  | ok s => exact hnext s h
  | error halt =>
    cases halt with
    | fault f => trivial
    | failed e s => exact h

theorem ask {α : Type} {q : Query α} {next : α → Except Halt PassState}
    (h : ∀ a, q = .ok a → Ends P F (next a)) : Ends P F (PassState.ask q >>= next) := by
  cases q with
  | ok a => exact h a rfl
  | error f => trivial

theorem foldlM_collect {α β : Type} (step : PassState → α → Except Halt PassState)
    (yield : PassState → PassState → α → List β) (I : List β → List α → PassState → Prop)
    (done : List β) {xs : List α}
    (hstep : ∀ done x xs s, I done (x :: xs) s →
      Ends (fun s' => I (done ++ yield s s' x) xs s') F (step s x)) (hs : I done xs s) :
    Ends (fun s' => I (done ++ collect step yield s xs) [] s') F (xs.foldlM step s) := by
  induction xs generalizing done s with
  | nil =>
    change I (done ++ []) [] s
    rwa [List.append_nil]
  | cons x xs ih =>
    have hx := hstep done x xs s hs
    rw [List.foldlM_cons, collect]
    cases hr : step s x with
    | ok s₁ =>
      rw [hr] at hx
      simp only [← List.append_assoc]
      exact ih _ hx
    | error halt =>
      rw [hr] at hx
      cases halt with
      | fault f => trivial
      | failed e s₁ => exact hx

theorem foldlM {α : Type} (step : PassState → α → Except Halt PassState)
    (I : List α → PassState → Prop) {xs : List α}
    (hstep : ∀ x xs s, I (x :: xs) s → Ends (I xs) F (step s x)) (hs : I xs s) :
    Ends (I []) F (xs.foldlM step s) :=
  foldlM_collect (β := Unit) step (fun _ _ _ => []) (fun _ => I) []
    (fun _ x xs s h => hstep x xs s h) hs

theorem outcome {o : PassOutcome} (h : Ends P F r) (ho : PassOutcome.of r = .ok o) :
    (∃ s, P s ∧ o = ⟨.ok s.report, s.ctx, s.log⟩) ∨
      ∃ s e, F e s ∧ o = ⟨.error e, s.ctx, s.log⟩ := by
  cases r with
  | ok s => exact Or.inl ⟨s, h, (Except.ok.inj ho).symm⟩
  | error halt =>
    cases halt with
    | fault f => simp [PassOutcome.of] at ho
    | failed e s => exact Or.inr ⟨s, e, h, (Except.ok.inj ho).symm⟩

end Ends

/-! ### What a pass says of itself -/

namespace PassState

variable (s : PassState) (message : String)

@[simp] theorem debugNote_ctx : (s.debugNote message).ctx = s.ctx := by
  rw [debugNote]
  split <;> rfl

@[simp] theorem debugNote_report : (s.debugNote message).report = s.report := by
  rw [debugNote]
  split <;> rfl

end PassState

theorem Context.answers_portName {c : Context} {port : PortRef} {w : Option WireId}
    (hport : c.portWire port = .ok w) (hnamed : c.device.HasIdent port.port) :
    Answers (c.portName port) fun _ => True := by
  obtain ⟨cell, hcell, _⟩ := bind_eq_ok_iff.1 hport
  rw [portName, hcell]
  exact (Device.answers_nameOf hnamed).map fun _ _ => trivial

/-! ### The steps of a pass -/

/-- Whether a pass gave up because a pip of a path that it had found was refused. -/
def RouteError.IsRefusal : RouteError → Prop
  | pathRefused .. => True
  | _ => False

namespace Pass

variable {P : PassState → Prop} {F : RouteError → PassState → Prop} {pass : Pass} {net : NetId}
  {name : String} {s : PassState} {p : PipId} {user : PortRef}

theorem bindStep_ends
    (hfail : ∀ e, s.ctx.bindPip p net pass.strength = .ok (.error e) → F (.pathRefused name e) s)
    (hbind : ∀ c log, s.ctx.bindPip p net pass.strength = .ok (.ok c) →
      P ⟨c, log, { s.report with pipsBound := s.report.pipsBound + 1 }⟩) :
    Ends P F (pass.bindStep net name s p) := by
  refine Ends.ask fun answer hanswer => ?_
  cases answer with
  | error e => exact hfail e hanswer
  | ok c =>
    simp only
    by_cases hdebug : c.debug = true
    · simp only [if_pos hdebug]
      refine Ends.ask fun pipName _ => Ends.ask fun wireName _ => ?_
      simp only [PassState.debugNote, if_pos hdebug]
      exact hbind c _ hanswer
    · simp only [if_neg hdebug]
      exact hbind c _ hanswer

theorem path_report {pips : List PipId} :
    Ends (fun s' => s'.report = { s.report with pipsBound := s'.report.pipsBound }) (fun _ _ => True)
      (pips.foldlM (pass.bindStep net name) s) := by
  refine Ends.foldlM (pass.bindStep net name)
    (fun _ s' => s'.report = { s.report with pipsBound := s'.report.pipsBound }) ?_ rfl
  intro p pips s' hs'
  refine bindStep_ends (fun _ _ => trivial) fun _ _ _ => ?_
  rw [hs']

theorem giveUp_ends {e : RouteError} {message : String} (hfail : pass = .constant → F e s)
    (hleft : pass = .clock → ∀ log,
      P ⟨s.ctx, log, { s.report with arcsLeft := s.report.arcsLeft + 1 }⟩) :
    Ends P F (pass.giveUp e message s) := by
  cases pass with
  | constant => exact hfail rfl
  | clock =>
    simp only [giveUp, PassState.debugNote]
    split
    · exact hleft rfl _
    · exact hleft rfl _

theorem joinSink_ends {sink : WireId} (hfail : pass = .constant → ∀ e, ¬ e.IsRefusal → F e s)
    (hleft : pass = .clock → ∀ log,
      P ⟨s.ctx, log, { s.report with arcsLeft := s.report.arcsLeft + 1 }⟩)
    (hpath : ∀ path, (s.ctx.wireBinding sink).admits net pass.strength = true →
      s.ctx.searchUphill pass net sink = .ok (some path) →
      Ends (fun s => P { s with report.arcsRouted := s.report.arcsRouted + 1 }) F
        (path.foldlM (pass.bindStep net name) s)) :
    Ends P F (pass.joinSink net name user sink s) := by
  rw [joinSink]
  by_cases hadm : (s.ctx.wireBinding sink).admits net pass.strength = true
  · rw [if_neg (by simp [hadm])]
    refine Ends.ask fun found hfound => ?_
    cases found with
    | none => exact Ends.ask fun wire _ => giveUp_ends (fun h => hfail h _ id) hleft
    | some path => exact (hpath path hadm hfound).bind fun s₂ hs₂ => hs₂
  · rw [if_pos (by simpa using hadm)]
    exact Ends.ask fun wire _ => Ends.ask fun pin _ => giveUp_ends (fun h => hfail h _ id) hleft

/-- An arc is given up, or a path that was found for it is bound. -/
theorem routeArc_ends
    (hfail : pass = .constant → ∀ e log, ¬ e.IsRefusal → F e ⟨s.ctx, log, s.report⟩)
    (hleft : pass = .clock → ∀ log,
      P ⟨s.ctx, log, { s.report with arcsLeft := s.report.arcsLeft + 1 }⟩)
    (hpath : ∀ sink path log, s.ctx.portWire user = .ok (some sink) →
      (s.ctx.wireBinding sink).admits net pass.strength = true →
      s.ctx.searchUphill pass net sink = .ok (some path) →
      Ends (fun s => P { s with report.arcsRouted := s.report.arcsRouted + 1 }) F
        (path.foldlM (pass.bindStep net name) ⟨s.ctx, log, s.report⟩)) :
    Ends P F (pass.routeArc net name s user) := by
  refine Ends.ask fun port hport => ?_
  cases port with
  | none => exact Ends.ask fun pin _ => giveUp_ends (fun h => hfail h _ s.log id) hleft
  | some sink =>
    have hjoin (log : Log) :
        Ends P F (pass.joinSink net name user sink ⟨s.ctx, log, s.report⟩) :=
      joinSink_ends (fun h e => hfail h e log) hleft fun path => hpath sink path log hport
    simp only
    by_cases hdebug : s.ctx.debug = true
    · simp only [if_pos hdebug]
      refine Ends.ask fun pin _ => Ends.ask fun wire _ => ?_
      simp only [PassState.debugNote, if_pos hdebug]
      exact hjoin _
    · simp only [if_neg hdebug]
      exact hjoin s.log

theorem claimSource_ends (hfail : ∀ e, ¬ e.IsRefusal → F e s)
    (hbind : ∀ w c, s.ctx.sourceWire net = .ok (some w) →
      s.ctx.bindWire w net pass.strength = .ok (.ok c) →
      P ⟨c, s.log, { s.report with nets := s.report.nets + 1 }⟩) :
    Ends P F (pass.claimSource net name s) := by
  refine Ends.ask fun source hsource => ?_
  cases source with
  | none => exact hfail _ id
  | some w =>
    refine Ends.ask fun answer hanswer => ?_
    cases answer with
    | error e => exact hfail _ id
    | ok c => exact hbind w c hsource hanswer

end Pass

end Interconnect
