import Interconnect.Proofs.Estimate.Anchor
import Interconnect.Proofs.Placement.Seating
import Interconnect.Proofs.Settings.Accepted
/-!
# Bels of one tile

Between bels of one tile delays are predicted by their clusters. The size of a cluster is read as a signed
word, and places are divided towards zero. So a size in the upper half of the words groups bels as the number
that completes it to all words.
-/
namespace Interconnect

/-- The delay between two places of a tile, whose clusters have some number of places each: none within a
cluster, and more to the second flip-flop of another cluster than to any other of its places. -/
def groupDelay (size src dst : Nat) : Delay :=
  if src / size = dst / size then 0 else if dst % size = 3 then 700 else 150

theorem groupDelay_eq_zero_iff {size src dst : Nat} :
    groupDelay size src dst = 0 ↔ src / size = dst / size := by
  unfold groupDelay
  split
  · next h => exact iff_of_true rfl h
  · next h =>
    refine iff_of_false ?_ h
    split <;> decide

theorem groupDelay_of_lt {size src dst : Nat} (hsrc : src < size) (hdst : dst < size) :
    groupDelay size src dst = 0 := by
  rw [groupDelay_eq_zero_iff, Nat.div_eq_of_lt hsrc, Nat.div_eq_of_lt hdst]

/-! ### Division -/

theorem natAbs_signed {n : Nat} (hn : n < 4294967296) :
    (signed n).natAbs = if n < 2147483648 then n else 4294967296 - n := by
  split
  · next h => rw [signed_of_lt h, Int.natAbs_natCast]
  · next h =>
    rw [signed_of_ge (Nat.not_lt.1 h) hn]
    omega

theorem tdiv_eq_tdiv_iff {size : Int} {m n : Nat} :
    (m : Int).tdiv size = (n : Int).tdiv size ↔ m / size.natAbs = n / size.natAbs := by
  rcases Int.natAbs_eq size with hsize | hsize
  · rw [hsize, ← Int.ofNat_tdiv, ← Int.ofNat_tdiv, Int.natAbs_natCast, Int.natCast_inj]
  · rw [hsize, Int.tdiv_neg, Int.tdiv_neg, ← Int.ofNat_tdiv, ← Int.ofNat_tdiv, Int.neg_inj, Int.natAbs_neg,
      Int.natAbs_natCast, Int.natCast_inj]

theorem natCast_tmod (size : Int) (n : Nat) : (n : Int).tmod size = (n % size.natAbs : Nat) := by
  rcases Int.natAbs_eq size with hsize | hsize
  · rw [hsize, ← Int.ofNat_tmod, Int.natAbs_natCast]
  · rw [hsize, Int.tmod_neg, ← Int.ofNat_tmod, Int.natAbs_neg, Int.natAbs_natCast]

theorem fitsWord_tdiv {size : Int} {n : Nat} (hn : n < 2147483648) : FitsWord ((n : Int).tdiv size) := by
  have hle := Int.natAbs_tdiv_le_natAbs n size
  unfold FitsWord
  omega

namespace Context

open Estimate

variable {c : Context} {net : NetId} {sink : PortRef} {x y : Bel}

/-- The delay between two places of a tile, by clusters of a size that may be negative. -/
def sizedDelay (size src dst : Int) : Query Delay := do
  if (← word (src.tdiv size)) = (← word (dst.tdiv size)) then return 0
  else if dst.tmod size = secondFlipFlop then return 700
  else return 150

theorem clusterDelay_eq_sizedDelay (h : 0 < c.estimator.clusterBels) (src dst : Int) :
    c.clusterDelay src dst = sizedDelay (signed c.estimator.clusterBels) src dst := by
  rw [clusterDelay, Nat.max_eq_left h]
  rfl

theorem sizedDelay_eq (size : Int) {src dst : Nat} (hsrc : src < 2147483648) (hdst : dst < 2147483648) :
    sizedDelay size src dst = .ok (groupDelay size.natAbs src dst) := by
  have hquotient {n : Nat} (hn : n < 2147483648) : word ((n : Int).tdiv size) = .ok ((n : Int).tdiv size) :=
    word_eq_ok_iff.2 ⟨fitsWord_tdiv hn, rfl⟩
  have hflipFlop (k : Nat) : (k : Int) = secondFlipFlop ↔ k = 3 := by
    unfold secondFlipFlop
    omega
  rw [sizedDelay, hquotient hsrc, hquotient hdst]
  simp only [bind, Except.bind, tdiv_eq_tdiv_iff, natCast_tmod, hflipFlop, groupDelay]
  split
  · rfl
  · split <;> rfl

/-- The cell of a port has its place on a bel. -/
def PlacesPort (c : Context) (port : PortRef) (b : BelId) (x : Bel) : Prop :=
  ∃ cell, c.netlist.cell port.cell = .ok cell ∧ cell.bel = some b ∧ c.device.bel b = .ok x

/-- The driver of a net and a sink have their places on bels of one tile. -/
def Colocates (c : Context) (net : NetId) (sink : PortRef) (x y : Bel) : Prop :=
  ∃ n driver src dst, c.netlist.net net = .ok n ∧ n.driver = some driver ∧
    c.PlacesPort driver src x ∧ c.PlacesPort sink dst y ∧ src.tile = dst.tile

theorem belLocation_of_bel {b : BelId} (h : c.device.bel b = .ok x) :
    ∃ column row, c.device.belLocation b = .ok ⟨column, row, signed x.z⟩ := by
  obtain ⟨tt, htype, hbel⟩ := bind_eq_ok_iff.1 h
  have hb : c.device.HasBel b := ⟨tt, htype, lt_size_of_fetch hbel⟩
  obtain ⟨⟨column, row⟩, hxy, -⟩ := answers_tileXY (c := c) hb.hasTile
  exact ⟨column, row, bind_eq_ok_iff.2 ⟨_, hxy, bind_eq_ok_iff.2 ⟨x, h, rfl⟩⟩⟩

theorem predictDelay_of_colocates (h : c.Colocates net sink x y) :
    c.predictDelay net sink = c.clusterDelay (signed x.z) (signed y.z) := by
  obtain ⟨n, driver, src, dst, hn, hdriver, ⟨a, ha, hsrc, hx⟩, ⟨b, hb, hdst, hy⟩, htile⟩ := h
  obtain ⟨_, _, hsrcAt⟩ := belLocation_of_bel hx
  obtain ⟨_, _, hdstAt⟩ := belLocation_of_bel hy
  simp only [predictDelay, placedDelay, hn, hdriver, ha, hb, hsrc, hdst, hsrcAt, hdstAt, htile, bind,
    Except.bind, if_true]

end Context

open Context

variable {c : Context} {s : RunSettings} {text : String} {net : NetId} {sink : PortRef} {x y : Bel}

/-- With accepted settings the delay between bels of one tile is that of their clusters, as long as the size of
a cluster is a signed word. Beyond, the bels are grouped by what completes the size to all words, and the delay is
only that of their clusters if this puts them in one group. -/
theorem colocated_by_cluster (htext : Settings.ofText text = .ok s) (hc : c.TunedBy s)
    (h : c.Colocates net sink x y) (hx : x.z < 2147483648) (hy : y.z < 2147483648) :
    c.predictDelay net sink = .ok (groupDelay (signed s.estimator.clusterBels).natAbs x.z y.z) ∧
    (c.predictDelay net sink = .ok (groupDelay s.estimator.clusterBels x.z y.z) ↔
      s.estimator.clusterBels < 2147483648 ∨
      x.z / (4294967296 - s.estimator.clusterBels) = y.z / (4294967296 - s.estimator.clusterBels)) := by
  obtain ⟨fits, sense⟩ := Settings.accepted_of_ofText htext
  have hdelay : c.predictDelay net sink =
      .ok (groupDelay (signed s.estimator.clusterBels).natAbs x.z y.z) := by
    rw [predictDelay_of_colocates h, signed_of_lt hx, signed_of_lt hy,
      clusterDelay_eq_sizedDelay (hc.estimator ▸ sense.cluster), sizedDelay_eq _ hx hy, hc.estimator]
  refine ⟨hdelay, ?_⟩
  rw [hdelay, Except.ok.injEq, natAbs_signed fits.cluster]
  split
  · next hword => exact iff_of_true rfl (.inl hword)
  · next hword =>
    have hall : groupDelay s.estimator.clusterBels x.z y.z = 0 :=
      groupDelay_of_lt (by omega) (by omega)
    rw [hall, groupDelay_eq_zero_iff]
    exact ⟨.inr, fun h => h.resolve_left hword⟩

/-! Two cells on neighbouring bels of a tile, the first of which drives the second. -/

def clusterText (size : Nat) : String := estimatorText "cluster_bels" (toString size)

def clusterSettings (size : Nat) : RunSettings where
  chipFile := "a.bin"
  estimator := { clusterBels := size }

def pairActs : List Act :=
  [.edit (.cell "a" 0), .edit (.cell "b" 0), .edit (.net "n"),
    .edit (.port 0 (Known.ident "O") .output), .edit (.port 1 (Known.ident "I") .input),
    .edit (.connect 0 (Known.ident "O") 0), .edit (.connect 1 (Known.ident "I") 0),
    .bindBel ⟨0, 0⟩ 0 .weak, .bindBel ⟨0, 1⟩ 1 .weak]

def pairSink : PortRef := ⟨1, Known.ident "I"⟩

def pairBel (z : Nat) : Bel := ⟨Known.count + z, 0, z, none, false, #[], none⟩

theorem exists_pair {size : Nat} (htext : Settings.ofText (clusterText size) = .ok (clusterSettings size))
    (h : (do
      match ← Device.ofDatabase ⟨seatsRecord, ⟨[]⟩, rfl⟩ with
      | .error _ => return false
      | .ok d =>
        let c ← Act.performAll { device := d } (.applySettings (clusterSettings size) :: pairActs)
        return decide ((do return (← c.netlist.net 0).driver) = Except.ok (some ⟨0, Known.ident "O"⟩) ∧
          (do return (← c.netlist.cell 0).bel) = Except.ok (some ⟨0, 0⟩) ∧
          (do return (← c.netlist.cell 1).bel) = Except.ok (some ⟨0, 1⟩) ∧
          c.device.bel ⟨0, 0⟩ = .ok (pairBel 0) ∧ c.device.bel ⟨0, 1⟩ = .ok (pairBel 1))) =
      Except.ok true) : ∃ db d c, ChipDatabase.ofRecord seatsRecord ⟨[]⟩ = .ok db ∧
    Device.ofDatabase db = .ok (.ok d) ∧ Reachable d c ∧ c.TunedBy (clusterSettings size) ∧
    c.Colocates 0 pairSink (pairBel 0) (pairBel 1) := by
  have accepted : ChipDatabase.ofRecord seatsRecord ⟨[]⟩ = .ok ⟨seatsRecord, ⟨[]⟩, rfl⟩ := rfl
  obtain ⟨d, c, opened, hrun, hcheck⟩ := exists_performAll h
  obtain ⟨hnet, ha, hb, hx, hy⟩ := of_decide_eq_true hcheck
  obtain ⟨n, hn, hdriver⟩ := bind_eq_ok_iff.1 hnet
  obtain ⟨a, ha, hsrc⟩ := bind_eq_ok_iff.1 ha
  obtain ⟨b, hb, hdst⟩ := bind_eq_ok_iff.1 hb
  have hcolocates : c.Colocates 0 pairSink (pairBel 0) (pairBel 1) :=
    ⟨n, _, ⟨0, 0⟩, ⟨0, 1⟩, hn, Except.ok.inj hdriver, ⟨a, ha, Except.ok.inj hsrc, hx⟩,
      ⟨b, hb, Except.ok.inj hdst, hy⟩, rfl⟩
  have htuned : c.TunedBy (clusterSettings size) :=
    Act.performAll_tunedBy (coherent_new d) (Settings.accepted_of_ofText htext).2
      (by simp [pairActs, Act.LeavesTuning]) hrun
  exact ⟨_, d, c, accepted, opened, Run.start.performAll (by simp) hrun, htuned, hcolocates⟩

/-- With one bel to a cluster the second bel is in another cluster than the first. -/
theorem colocated_by_cluster_single : ∃ s db d, ∃ c : Context, Settings.ofText (clusterText 1) = .ok s ∧
    ChipDatabase.ofRecord seatsRecord ⟨[]⟩ = .ok db ∧ Device.ofDatabase db = .ok (.ok d) ∧
    c.TunedBy s ∧ c.Colocates 0 pairSink (pairBel 0) (pairBel 1) ∧ s.estimator.clusterBels = 1 ∧
    c.predictDelay 0 pairSink = .ok 150 := by
  have htext : Settings.ofText (clusterText 1) = .ok (clusterSettings 1) := by decide +kernel
  obtain ⟨db, d, c, accepted, opened, -, htuned, hcolocates⟩ := exists_pair htext (by decide +kernel)
  have hdelay := (colocated_by_cluster htext htuned hcolocates (by decide) (by decide)).2.2
    (.inl (by decide))
  exact ⟨_, db, d, c, htext, accepted, opened, htuned, hcolocates, rfl, hdelay⟩

/-- With a cluster of nearly all words both bels are in one cluster, and are predicted as if in two. -/
theorem cluster_beyond_signed_words : ∃ s db d c, Settings.ofText (clusterText 4294967295) = .ok s ∧
    ChipDatabase.ofRecord seatsRecord ⟨[]⟩ = .ok db ∧ Device.ofDatabase db = .ok (.ok d) ∧
    Reachable d c ∧ c.TunedBy s ∧ c.Colocates 0 pairSink (pairBel 0) (pairBel 1) ∧
    (pairBel 0).z / s.estimator.clusterBels = (pairBel 1).z / s.estimator.clusterBels ∧
    c.predictDelay 0 pairSink = .ok 150 := by
  have htext : Settings.ofText (clusterText 4294967295) = .ok (clusterSettings 4294967295) := by
    decide +kernel
  obtain ⟨db, d, c, accepted, opened, hreach, htuned, hcolocates⟩ := exists_pair htext (by decide +kernel)
  refine ⟨_, db, d, c, htext, accepted, opened, hreach, htuned, hcolocates, by decide, ?_⟩
  rw [predictDelay_of_colocates hcolocates, clusterDelay, htuned.estimator]
  decide +kernel

end Interconnect
