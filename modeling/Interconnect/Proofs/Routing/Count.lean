import Interconnect.Proofs.Ownership.Run
import Mathlib.Algebra.GroupWithZero.Nat
/-!
# What a report counts

Every user of a net that a pass is there for is counted once: as an arc that was routed, or as one
that was left to the general router. Only clocks are left.
-/
namespace Interconnect

def Context.userCount (c : Context) (net : NetId) : Nat :=
  ((c.netlist.nets[net]?).map (·.users.length)).getD 0

/-- What a report says of arcs, when certain arcs have been routed of a number that were tried. -/
structure RouteReport.Counts (pass : Pass) (arcs : List (NetId × PortRef)) (tried : Nat)
    (r : RouteReport) : Prop where
  routed : r.arcsRouted = arcs.length
  tried : r.arcsRouted + r.arcsLeft = tried
  left : pass = .constant → r.arcsLeft = 0

namespace Pass

variable {pass : Pass} {net : NetId} {name : String} {s : PassState} {user : PortRef}

theorem userArc_counts {arcs : List (NetId × PortRef)} {tried : Nat}
    (hs : s.report.Counts pass arcs tried) :
    Ends (fun s' => s'.report.Counts pass (arcs ++
        if s.report.arcsRouted < s'.report.arcsRouted then [(net, user)] else []) (tried + 1))
      (fun _ _ => True) (pass.routeArc net name s user) := by
  refine routeArc_ends (fun _ _ _ _ => trivial) ?_ ?_
  · rintro rfl log
    rw [if_neg (Nat.lt_irrefl _), List.append_nil]
    refine ⟨hs.routed, ?_, fun h => by cases h⟩
    have htried := hs.tried
    simp only
    omega
  · intro sink pips log _ _ _
    refine path_report.mono ?_ fun _ _ h => h
    intro s' hreport
    have hrouted : s'.report.arcsRouted = s.report.arcsRouted := by rw [hreport]
    have hleft : s'.report.arcsLeft = s.report.arcsLeft := by rw [hreport]
    simp only [hrouted, if_pos (Nat.lt_succ_self _)]
    refine ⟨?_, ?_, ?_⟩
    · simp [hs.routed]
    · have htried := hs.tried
      simp only [hleft]
      omega
    · intro hpass
      exact hleft.trans (hs.left hpass)

theorem routeNet_counts {n : Net} {arcs : List (NetId × PortRef)} {tried : Nat}
    (hn : s.ctx.netlist.net net = .ok n) (hs : s.report.Counts pass arcs tried) :
    Ends (fun s' => s'.report.Counts pass (arcs ++ pass.netArcs s net) (tried + n.users.length))
      (fun _ _ => True) (pass.routeNet s net) := by
  refine Ends.ask fun n' hn' => ?_
  obtain rfl : n = n' := Except.ok.inj (hn.symm.trans hn')
  have hsource : Ends (·.report.Counts pass arcs tried) (fun _ _ => True)
      (pass.claimSource net n.name s) :=
    claimSource_ends (fun _ _ => trivial) fun _ _ _ _ => ⟨hs.routed, hs.tried, hs.left⟩
  cases hclaim : pass.claimSource net n.name s with
  | error halt =>
    cases halt with
    | fault f => trivial
    | failed e s' => trivial
  | ok s₁ =>
    rw [hclaim] at hsource
    have harcs : pass.netArcs s net = pass.userArcs net n.name s₁ n.users := by
      simp only [netArcs, hn, hclaim]
    rw [harcs]
    refine (Ends.foldlM_collect (F := fun _ _ => True) (pass.routeArc net n.name)
      (fun s s' user => if s.report.arcsRouted < s'.report.arcsRouted then [(net, user)] else [])
      (fun arcs users s => ∃ done, s.report.Counts pass arcs done ∧
        done + users.length = tried + n.users.length) arcs ?_ ⟨tried, hsource, rfl⟩).mono ?_
      fun _ _ h => h
    · rintro arcs user users s ⟨done, hs, hdone⟩
      refine (userArc_counts hs).mono (fun s' hs' => ⟨done + 1, hs', ?_⟩) fun _ _ h => h
      simp only [List.length_cons] at hdone
      omega
    · rintro s' ⟨done, hs', hdone⟩
      obtain rfl : done = tried + n.users.length := by simpa using hdone
      exact hs'

end Pass

namespace Context

variable {c : Context}

theorem netsByName_perm (n : Netlist) : n.netsByName.Perm (List.range n.nets.size) := by
  have hsort := (List.mergeSort_perm (n.nets.toList.zipIdx.map fun p => (p.1.name, p.2))
    fun a b => decide (a.1 ≤ b.1)).map (·.2)
  refine hsort.trans ?_
  rw [List.map_map]
  change (n.nets.toList.zipIdx.map Prod.snd).Perm _
  rw [List.zipIdx_map_snd, List.range_eq_range']
  exact List.Perm.refl _

theorem netsByName_of_sorted {n : Netlist} (h : (n.nets.toList.map (·.name)).Pairwise (· ≤ ·)) :
    n.netsByName = List.range n.nets.size := by
  have hnames : (n.nets.toList.zipIdx.map fun p => (p.1.name, p.2)).map Prod.fst =
      n.nets.toList.map (·.name) := by
    rw [List.map_map, ← List.zipIdx_map_fst 0 n.nets.toList, List.map_map]
    simp
  have hsorted : (n.nets.toList.zipIdx.map fun p => (p.1.name, p.2)).Pairwise
      fun a b => decide (a.1 ≤ b.1) = true := by
    rw [← hnames, List.pairwise_map] at h
    simpa using h
  have hsort := congrArg (List.map (·.2)) (List.mergeSort_of_pairwise hsorted)
  refine Eq.trans hsort ?_
  rw [List.map_map]
  change n.nets.toList.zipIdx.map Prod.snd = _
  rw [List.zipIdx_map_snd, List.range_eq_range']
  rfl

theorem userCount_of_net {s : Context} {net : NetId} {n : Net} (h : s.unrouted = c.unrouted)
    (hn : s.netlist.net net = .ok n) : n.users.length = c.userCount net := by
  obtain ⟨n₀, hn₀, hu⟩ := net_of_unrouted h hn
  have husers : n₀.users = n.users := congrArg (·.users) hu
  rw [userCount, fetch_eq_ok_iff.1 hn₀, ← husers]
  rfl

def passUsers (c : Context) (pass : Pass) : Nat := ((c.passNets pass).map c.userCount).sum

/-- How many users are left to try when certain nets have not been looked at yet. -/
def usersAhead (c : Context) (pass : Pass) (rest : List NetId) : Nat :=
  ((rest.filter (· ∈ c.passNets pass)).map c.userCount).sum

theorem usersAhead_order (c : Context) (pass : Pass) :
    c.usersAhead pass (c.passOrder pass) = c.passUsers pass := by
  cases pass with
  | constant =>
    rw [usersAhead, passUsers, passOrder, List.filter_eq_self.2]
    intro net hnet
    exact decide_eq_true hnet
  | clock =>
    have hfilter : (List.range c.netlist.nets.size).filter (· ∈ c.passNets .clock) =
        c.passNets .clock := by
      rw [passNets]
      apply List.filter_congr
      intro net hnet
      have hlt := List.mem_range.1 hnet
      simp [hlt]
    have hperm := ((netsByName_perm c.netlist).filter (· ∈ c.passNets .clock)).map c.userCount
    rw [hfilter] at hperm
    exact hperm.sum_nat

theorem usersAhead_cons {pass : Pass} {net : NetId} (rest : List NetId)
    (hnet : net ∈ c.passNets pass) :
    c.usersAhead pass (net :: rest) = c.userCount net + c.usersAhead pass rest := by
  rw [usersAhead, List.filter_cons_of_pos (by simpa using hnet), List.map_cons, List.sum_cons]
  rfl

theorem routePass_counts {pass : Pass} {log : Log} {o : PassOutcome} {report : RouteReport}
    (hc : c.Coherent) (ho : c.routePass log pass = .ok o) (hreport : o.result = .ok report) :
    report.Counts pass (c.passArcs log pass) (c.passUsers pass) := by
  have hk : pass.KeepsNets c (fun rest arcs s => s.Holds c (fun _ _ _ => True) ∧
      ∃ tried, s.report.Counts pass arcs tried ∧
        tried + c.usersAhead pass rest = c.passUsers pass) (fun _ _ => True) := by
    refine ⟨?_, ?_, ?_, ?_, ?_⟩
    · rintro rest arcs s ⟨hs, _⟩
      exact hs.unrouted
    · rintro rest arcs s log ⟨hs, hcount⟩
      exact ⟨⟨hs.coherent, hs.unrouted, trivial⟩, hcount⟩
    · rintro net rest arcs s hnet ⟨hs, tried, hcount, htried⟩
      refine ⟨hs, tried, hcount, ?_⟩
      rwa [usersAhead, List.filter_cons_of_neg (by simpa using hnet)] at htried
    · rintro net rest arcs s n hnet rfl hn ⟨hs, tried, hcount, htried⟩
      rw [usersAhead_cons rest hnet, ← userCount_of_net hs.unrouted hn] at htried
      refine ⟨⟨hs.coherent, hs.unrouted, trivial⟩, tried + n.users.length,
        ⟨hcount.routed, ?_, fun h => by cases h⟩, by omega⟩
      have htally := hcount.tried
      simp only [PassState.leave]
      omega
    · rintro net rest arcs s hnet ⟨hs, tried, hcount, htried⟩
      cases hn : s.ctx.netlist.net net with
      | error f =>
        rw [Pass.routeNet, hn]
        trivial
      | ok n =>
        rw [usersAhead_cons rest hnet, ← userCount_of_net hs.unrouted hn] at htried
        have hkeeps := @Pass.Keeps.routeNet _ _ _ _ _ rest arcs (Pass.keeps_true pass c) hnet hs
        refine (hkeeps.and (Pass.routeNet_counts hn hcount)).mono ?_ fun _ _ _ => trivial
        rintro s' ⟨hs', hcount'⟩
        exact ⟨hs', _, hcount', by omega⟩
  have hstart : ({} : RouteReport).Counts pass [] 0 := ⟨rfl, rfl, fun _ => rfl⟩
  rcases hk.routePass ⟨⟨hc, rfl, trivial⟩, 0, hstart, by rw [usersAhead_order]; omega⟩ ho with
    ⟨s, ⟨_, tried, hcount, htried⟩, rfl⟩ | ⟨s, e, _, rfl⟩
  · obtain rfl := Except.ok.inj hreport
    obtain rfl : tried = c.passUsers pass := by simpa [usersAhead] using htried
    exact hcount
  · cases hreport

end Context
end Interconnect
