import Interconnect.Proofs.Routing.Search
import Interconnect.Proofs.SinkLocation.Discovery
/-!
# Sinks are located on tiles

A discovery of sinks records the coordinates of tiles and nothing else. So every sink location is that of a
tile, unless some place was recorded by hand.
-/
namespace Interconnect

namespace Context

variable {c c' : Context}

/-- Every sink location is the coordinate of a tile. -/
def SinksOnTiles (c : Context) : Prop :=
  ∀ w p, c.sinkLocation w = some p → ∃ t, c.device.HasTile t ∧ c.device.tileXY t = .ok p

theorem Locates.onTile {f : LocatedSink} (h : c.Locates f) :
    ∃ t, c.device.HasTile t ∧ c.device.tileXY t = .ok f.place := by
  obtain ⟨net, n, user, -, -, x, b, -, -, -, hport⟩ := h.user
  have hexit := (answers_locateSink (isHandle_of_portWire hport).hasWire).of_eq_ok h.found
  obtain ⟨m, hm, hplace⟩ := h.place
  have hmember := (Device.answers_canonicalMember (hexit _ _ rfl)).of_eq_ok hm
  exact ⟨m.tile, hmember.hasTile, hplace⟩

theorem Discovered.sinksOnTiles {found : List LocatedSink} {s : SinkState} (h : Discovered c found s)
    (hc : c.SinksOnTiles) : s.ctx.SinksOnTiles := by
  intro w p hp
  have hdevice : s.ctx.device = c.device := congrArg (·.device) h.frame
  rw [h.location, Option.or_eq_some_iff] at hp
  rw [hdevice]
  rcases hp with hp | ⟨-, hp⟩
  · exact hc w p hp
  · obtain ⟨f, hf, rfl⟩ := Option.map_eq_some_iff.1 hp
    exact (h.locates f (List.mem_of_find?_eq_some hf)).onTile

theorem SinksOnTiles.congr (hc : c.SinksOnTiles) (hsinks : c'.sinkLocations = c.sinkLocations)
    (hdevice : c'.device = c.device ∨ ∃ name, c'.device = (c.device.intern name).2) : c'.SinksOnTiles := by
  intro w p hp
  rw [sinkLocation, hsinks] at hp
  obtain ⟨t, ht, hxy⟩ := hc w p hp
  rcases hdevice with heq | ⟨name, heq⟩
  · exact ⟨t, heq ▸ ht, heq ▸ hxy⟩
  · rw [heq]
    exact ⟨t, ht, hxy⟩

end Context

namespace Act

variable {c c' : Context} {a : Act}

/-- Whether a request records no sink location by hand. -/
def LeavesSinks : Act → Prop
  | setSinkLocation .. => False
  | _ => True

theorem perform_sinksOnTiles (hc : c.Coherent) (hs : c.SinksOnTiles) (ha : a.LeavesSinks)
    (h : a.perform c = .ok c') : c'.SinksOnTiles := by
  rcases (perform_apart hc h).1 with hsame | ⟨w, xy, rfl, -⟩ | ⟨log, s, -, hs', rfl⟩
  · exact hs.congr hsame (perform_device hc h)
  · exact ha.elim
  · obtain ⟨⟨found, hfound⟩, -⟩ := Context.exists_discovered hs'
    exact hfound.sinksOnTiles hs

end Act

theorem Run.sinksOnTiles {c c' : Context} (hc : c.Coherent) (hs : c.SinksOnTiles)
    (h : Run (fun _ a => a.LeavesSinks) c c') : c'.SinksOnTiles := by
  induction h with
  | start => exact hs
  | step hrun ha hperform ih => exact Act.perform_sinksOnTiles (hrun.coherent hc) ih ha hperform

theorem Run.sinksOnTiles_of_new {d : Device} {c : Context}
    (h : Run (fun _ a => a.LeavesSinks) { device := d } c) : c.SinksOnTiles :=
  h.sinksOnTiles (Context.coherent_new d) fun w p hp => by simp [Context.sinkLocation] at hp

end Interconnect
