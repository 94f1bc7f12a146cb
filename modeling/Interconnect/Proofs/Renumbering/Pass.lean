import Interconnect.Proofs.Renumbering.Binding
import Interconnect.Proofs.Routing.Ends
import Interconnect.Proofs.Routing.Search
/-!
# The same pass

A pass over a design under other numbers takes the same steps. Each arc finds the same way and binds
the same pips; where one run gives up or fails, so does the other, and for the same reason.
-/
namespace Interconnect

variable {α β : Type} {r : Renumbering}

/-- Two passes that have come to the same point. -/
structure PassState.Renumbered (r : Renumbering) (s s' : PassState) : Prop where
  ctx : s.ctx.Renumbered r s'.ctx
  report : s'.report = s.report

/-- Both passes meet a fault, or both fail at the same point and for the same reason. -/
inductive Halt.Renumbered (r : Renumbering) : Halt → Halt → Prop
  | fault (f f' : Fault) : Halt.Renumbered r (.fault f) (.fault f')
  | failed {s s' : PassState} (e : RouteError) (h : s.Renumbered r s') :
    Halt.Renumbered r (.failed e s) (.failed (e.renumber r) s')

/-- Passes that come through to related results, or stop alike. -/
abbrev AlikePass (r : Renumbering) (R : α → β → Prop) :
    Except Halt α → Except Halt β → Prop := Alike (Halt.Renumbered r) R

namespace AlikePass

variable {R : α → β → Prop} {P : PassState → PassState → Prop}

theorem ask {q : Query α} {q' : Query β} (h : AlikeQuery R q q') :
    AlikePass r R (PassState.ask q) (PassState.ask q') := by
  cases h with
  | ok h => exact .ok h
  | error _ => exact .error (.fault _ _)

theorem ask_same {q : Query α} {f g : α → Except Halt PassState}
    (hfg : ∀ a, q = .ok a → AlikePass r P (f a) (g a)) :
    AlikePass r P (PassState.ask q >>= f) (PassState.ask q >>= g) := by
  cases q with
  | ok a => exact hfg a rfl
  | error f => exact .error (.fault _ _)

end AlikePass

namespace Pass

variable {pass : Pass} {net : NetId} {name : String} {s s' : PassState} {user user' : PortRef}
  {sink : WireId} {p : PipId}

theorem giveUp_alike (hs : s.Renumbered r s') (e : RouteError) (message message' : String) :
    AlikePass r (PassState.Renumbered r) (pass.giveUp e message s)
      (pass.giveUp (e.renumber r) message' s') := by
  cases pass with
  | constant => exact .error (.failed e hs)
  | clock =>
    refine .ok ⟨?_, ?_⟩
    · simpa [PassState.leave] using hs.ctx
    · simp [PassState.leave, hs.report]

/-! ### Paths -/

/-- A pip that was bound can be named, so a note about it keeps no pass from going on. -/
theorem bindStep_of_bindPip (name : String) {c : Context} (hnamed : s.ctx.device.Named)
    (h : s.ctx.bindPip p net pass.strength = .ok (.ok c)) :
    ∃ log, pass.bindStep net name s p =
      .ok ⟨c, log, { s.report with pipsBound := s.report.pipsBound + 1 }⟩ := by
  have hdevice := Context.device_of_bindPip h
  obtain ⟨dst, _, hdst, _⟩ := Context.bindPip_eq h
  rw [← hdevice] at hnamed hdst
  have hpip : c.device.HasPip p := by
    obtain ⟨info, hinfo, _⟩ := bind_eq_ok_iff.1 hdst
    obtain ⟨tt, typed, inside⟩ := bind_eq_ok_iff.1 hinfo
    exact ⟨tt, typed, lt_size_of_fetch inside⟩
  obtain ⟨pipName, hpipName, _⟩ := Device.answers_pipName hnamed hpip
  obtain ⟨w, hw, hwire⟩ := Device.answers_pipDstWire hpip
  obtain ⟨wireName, hwireName, _⟩ := Device.answers_wireName hnamed hwire
  rw [bindStep, h]
  by_cases hdebug : c.debug = true
  · refine ⟨(PassState.debugNote { s with ctx := c } s!"bind pip {pipName} --> {wireName}").log, ?_⟩
    simp only [PassState.ask, Except.mapError, bind, Except.bind, pure, Except.pure, if_pos hdebug,
      hpipName, hw, hwireName, PassState.debugNote_ctx, PassState.debugNote_report]
  · refine ⟨s.log, ?_⟩
    simp only [PassState.ask, Except.mapError, bind, Except.bind, pure, Except.pure, if_neg hdebug]

theorem bindStep_alike (hs : s.Renumbered r s') :
    AlikePass r (PassState.Renumbered r) (pass.bindStep net name s p)
      (pass.bindStep (r.net net) name s' p) := by
  have hbind := hs.ctx.bindPip p net (s := pass.strength)
  generalize hx : s.ctx.bindPip p net pass.strength = x,
    hy : s'.ctx.bindPip p (r.net net) pass.strength = y at hbind
  cases hbind with
  | error _ =>
    rw [bindStep, bindStep, hx, hy]
    exact .error (.fault _ _)
  | ok hanswer =>
    cases hanswer with
    | error he =>
      subst he
      rw [bindStep, bindStep, hx, hy]
      exact .error (.failed (.pathRefused name _) hs)
    | ok hc =>
      obtain ⟨log, hlog⟩ := bindStep_of_bindPip name hs.ctx.chip.named hx
      obtain ⟨log', hlog'⟩ := bindStep_of_bindPip name hs.ctx.chip.symm.named hy
      rw [hlog, hlog', hs.report]
      exact .ok ⟨hc, rfl⟩

theorem path_alike (hs : s.Renumbered r s') (path : List PipId) :
    AlikePass r (PassState.Renumbered r) (path.foldlM (pass.bindStep net name) s)
      (path.foldlM (pass.bindStep (r.net net) name) s') := by
  apply Alike.foldlM (List.forall₂_same.2 fun p _ => rfl)
  · intro t t' p p' ht hp
    subst hp
    exact bindStep_alike ht
  · exact hs

/-! ### Arcs -/

theorem joinSink_alike (hs : s.Renumbered r s') (huser : r.SamePort user user') :
    AlikePass r (PassState.Renumbered r) (pass.joinSink net name user sink s)
      (pass.joinSink (r.net net) name user' sink s') := by
  unfold joinSink
  rw [hs.ctx.wireBinding, Binding.admits_renumber, hs.ctx.chip.wireName, hs.ctx.searchUphill]
  split
  · apply AlikePass.ask_same
    intro wire _
    apply (AlikePass.ask (hs.ctx.portName huser)).bind
    rintro pin _ rfl
    exact giveUp_alike hs (.sinkHeld name wire pin) _ _
  · apply AlikePass.ask_same
    intro found _
    cases found with
    | none =>
      apply AlikePass.ask_same
      intro wire _
      exact giveUp_alike hs (.noRoute name wire) _ _
    | some path =>
      apply (path_alike hs path).bind
      intro t t' ht
      refine .ok ⟨ht.ctx, ?_⟩
      simp only [ht.report]

/-- Where a port that is to be named has a name, a note about its arc keeps no pass from going on. -/
theorem routeArc_of_portWire (hnamed : s.ctx.device.Named)
    (hport : s.ctx.portWire user = .ok (some sink))
    (hname : s.ctx.debug = true → Answers (s.ctx.portName user) fun _ => True) :
    ∃ t, t.ctx = s.ctx ∧ t.report = s.report ∧
      pass.routeArc net name s user = pass.joinSink net name user sink t := by
  have hwire := (Context.isHandle_of_portWire hport).hasWire
  obtain ⟨wire, hwireName, _⟩ := Device.answers_wireName hnamed hwire
  rw [routeArc, hport]
  by_cases hdebug : s.ctx.debug = true
  · obtain ⟨pin, hpin, _⟩ := hname hdebug
    refine ⟨s.debugNote s!"routing arc to {pin} (wire {wire})", by simp, by simp, ?_⟩
    simp only [PassState.ask, Except.mapError, bind, Except.bind, pure, Except.pure, if_pos hdebug,
      hpin, hwireName]
  · refine ⟨s, rfl, rfl, ?_⟩
    simp only [PassState.ask, Except.mapError, bind, Except.bind, pure, Except.pure, if_neg hdebug]

theorem routeArc_alike (hs : s.Renumbered r s') (huser : r.SamePort user user') :
    AlikePass r (PassState.Renumbered r) (pass.routeArc net name s user)
      (pass.routeArc (r.net net) name s' user') := by
  have hpin := hs.ctx.portName huser
  have hport := hs.ctx.portWire huser
  generalize hx : s.ctx.portWire user = x, hy : s'.ctx.portWire user' = y at hport
  cases hport with
  | error _ =>
    rw [routeArc, routeArc, hx, hy]
    exact .error (.fault _ _)
  | @ok port _ h =>
    subst h
    cases port with
    | none =>
      rw [routeArc, routeArc, hx, hy]
      apply (AlikePass.ask hpin).bind
      rintro pin _ rfl
      exact giveUp_alike hs (.pinWithoutWire pin) _ _
    | some sink =>
      have hwith (hleft : s.ctx.debug = true → Answers (s.ctx.portName user) fun _ => True)
          (hright : s'.ctx.debug = true → Answers (s'.ctx.portName user') fun _ => True) :
          AlikePass r (PassState.Renumbered r) (pass.routeArc net name s user)
            (pass.routeArc (r.net net) name s' user') := by
        obtain ⟨t, hctx, hreport, ht⟩ := routeArc_of_portWire hs.ctx.chip.named hx hleft
        obtain ⟨t', hctx', hreport', ht'⟩ := routeArc_of_portWire hs.ctx.chip.symm.named hy hright
        rw [ht, ht']
        apply joinSink_alike _ huser
        exact ⟨hctx ▸ hctx' ▸ hs.ctx, by rw [hreport, hreport', hs.report]⟩
      generalize hn : s.ctx.portName user = n, hn' : s'.ctx.portName user' = n' at hpin hwith
      cases hpin with
      | ok _ => exact hwith (fun _ => answers_ok trivial) fun _ => answers_ok trivial
      | error _ =>
        have hsame : s'.ctx.debug = s.ctx.debug := by
          apply hs.ctx.details.resolve_right
          intro hidents
          obtain ⟨pin, hpin, _⟩ := Context.answers_portName hx (hidents _ _ huser.port)
          cases hpin.symm.trans hn
        by_cases hdebug : s.ctx.debug = true
        · rw [routeArc, routeArc, hx, hy]
          simp only [PassState.ask, Except.mapError, bind, Except.bind, hsame, if_pos hdebug, hn, hn']
          exact .error (.fault _ _)
        · apply hwith
          · exact fun h => absurd h hdebug
          · exact fun h => absurd (hsame.symm.trans h) hdebug

/-! ### Nets -/

theorem claimSource_alike (hs : s.Renumbered r s') :
    AlikePass r (PassState.Renumbered r) (pass.claimSource net name s)
      (pass.claimSource (r.net net) name s') := by
  unfold claimSource
  apply (AlikePass.ask (hs.ctx.sourceWire net)).bind
  rintro source _ rfl
  cases source with
  | none => exact .error (.failed (.noSource name) hs)
  | some w =>
    apply (AlikePass.ask (hs.ctx.bindWire w net)).bind
    intro answer answer' hanswer
    cases hanswer with
    | error he =>
      subst he
      exact .error (.failed (.sourceRefused name _) hs)
    | ok hc =>
      refine .ok ⟨hc, ?_⟩
      simp only [hs.report]

theorem routeNet_alike (hs : s.Renumbered r s') :
    AlikePass r (PassState.Renumbered r) (pass.routeNet s net) (pass.routeNet s' (r.net net)) := by
  unfold routeNet
  apply (AlikePass.ask (hs.ctx.net net)).bind
  intro n n' hn
  rw [hn.name]
  apply (claimSource_alike hs).bind
  intro t t' ht
  apply Alike.foldlM hn.users
  · intro u u' user user' hu huser
    exact routeArc_alike hu huser
  · exact ht

end Pass
end Interconnect
