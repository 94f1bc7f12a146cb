import Interconnect.Proofs.Building.Step
/-!
# Tiles of the grid

A grid starts with blank tiles in rows. A tile bears the name and the type that it was given last, and
its sites in the order in which they were added. A position is a number as soon as it is named: a column
beyond the width reaches a tile of a later row.
-/
namespace Interconnect

namespace BuildStep

/-- The name and the type that a step gives to a tile of a grid of that width. -/
def placed? (width t : Nat) : BuildStep → Option (String × Nat)
  | setTile x y name tt => if y * width + x = t then some (name, tt) else none
  | _ => none

/-- The site that a step adds to a tile, up to its place among the sites of that tile. -/
def site? (t : Nat) : BuildStep → Option (Nat → Site)
  | site tile name siteType pin xy =>
    if tile = t then some fun i => ⟨name, siteType, pin, (0, i), xy⟩ else none
  | _ => none

variable {s : BuildStep} {width t : Nat}

theorem placed?_of_sparesTiles (h : s.SparesTiles) : s.placed? width t = none := by
  cases s with
  | setTile => exact h.elim
  | _ => rfl

theorem site?_of_sparesTiles (h : s.SparesTiles) : s.site? t = none := by
  cases s with
  | site => exact h.elim
  | _ => rfl

/-- The name and the type that a tile was given last, or those that it has from the start. -/
def lastPlaced (width t : Nat) (steps : List BuildStep) : String × Nat :=
  (steps.reverse.findSome? (·.placed? width t)).getD (s!"NULL_X{t % width}Y{t / width}", 0)

def sitesOf (t : Nat) (steps : List BuildStep) : List Site :=
  (steps.filterMap (·.site? t)).mapIdx fun i site => site i

theorem lastPlaced_append (steps : List BuildStep) :
    lastPlaced width t (steps ++ [s]) = (s.placed? width t).getD (lastPlaced width t steps) := by
  simp only [lastPlaced, List.reverse_append, List.reverse_singleton, List.singleton_append,
    List.findSome?_cons]
  cases s.placed? width t <;> rfl

theorem sitesOf_append (steps : List BuildStep) : sitesOf t (steps ++ [s]) =
    sitesOf t steps ++ ((s.site? t).map fun site => site (sitesOf t steps).length).toList := by
  simp only [sitesOf, List.filterMap_append, List.length_mapIdx]
  cases hs : s.site? t <;> simp [hs, List.mapIdx_append]

end BuildStep

/-- The tiles of a grid, as the steps made so far have left them. -/
structure Tiled (width height : Nat) (steps : List BuildStep) (tiles : Array Tile) : Prop where
  size : tiles.size = height * width
  placed : ∀ (t : Nat) tile, tiles[t]? = some tile →
    (tile.name, tile.tileType) = BuildStep.lastPlaced width t steps
  sites : ∀ (t : Nat) tile, tiles[t]? = some tile → tile.sites.toList = BuildStep.sitesOf t steps

theorem flatMap_range_map {α : Type} (f : Nat → Nat → α) (width height : Nat) :
    ((List.range height).flatMap fun y => (List.range width).map fun x => f x y) =
      (List.range (height * width)).map fun t => f (t % width) (t / width) := by
  induction height with
  | zero => simp
  | succ height ih =>
    rw [List.range_succ, List.flatMap_append, ih, Nat.succ_mul, List.range_add, List.map_append,
      List.map_map, List.flatMap_singleton]
    congr 1
    apply List.map_congr_left
    intro x hx
    have hlt : x < width := List.mem_range.1 hx
    have hmod : (height * width + x) % width = x := by
      rw [Nat.mul_add_mod_self_right, Nat.mod_eq_of_lt hlt]
    have hdiv : (height * width + x) / width = height := by
      rw [Nat.mul_comm, Nat.mul_add_div (by omega), Nat.div_eq_of_lt hlt, Nat.add_zero]
    rw [Function.comp_apply, hmod, hdiv]

theorem tiles_start (name : String) (width height : Nat) :
    (ChipBuilder.start name width height).tiles = ((List.range (height * width)).map fun t =>
      (⟨s!"NULL_X{t % width}Y{t / width}", 0, #[], #[]⟩ : Tile)).toArray := by
  rw [← flatMap_range_map fun x y => (⟨s!"NULL_X{x}Y{y}", 0, #[], #[]⟩ : Tile)]
  -- The known names are many: nothing here may compute their table.
  obtain ⟨first, hfirst⟩ : ∃ first, first = Known.table.intern "NULL" := ⟨_, rfl⟩
  rw [ChipBuilder.start, ← hfirst]

theorem tiled_start (name : String) (width height : Nat) :
    Tiled width height [] (ChipBuilder.start name width height).tiles := by
  rw [tiles_start]
  constructor
  · simp
  · intro t tile htile
    simp only [List.getElem?_toArray, List.getElem?_map] at htile
    obtain ⟨k, hk, rfl⟩ := Option.map_eq_some_iff.1 htile
    obtain rfl : t = k := by simpa using (List.getElem?_eq_some_iff.1 hk).2
    rfl
  · intro t tile htile
    simp only [List.getElem?_toArray, List.getElem?_map] at htile
    obtain ⟨k, -, rfl⟩ := Option.map_eq_some_iff.1 htile
    rfl

namespace TilesChange

variable {width height : Nat} {before : List BuildStep} {tiles tiles' : Array Tile} {s : BuildStep}

theorem size (h : TilesChange width tiles s tiles') : tiles'.size = tiles.size := by
  cases h with
  | spare => rfl
  | set => exact Array.size_setIfInBounds
  | site => exact Array.size_setIfInBounds

/-- What each tile was before a step, and what the step has made of it. -/
theorem exists_old (h : TilesChange width tiles s tiles') {t : Nat} {tile : Tile}
    (htile : tiles'[t]? = some tile) : ∃ old, tiles[t]? = some old ∧
      (tile.name, tile.tileType) = (s.placed? width t).getD (old.name, old.tileType) ∧
      tile.sites.toList =
        old.sites.toList ++ ((s.site? t).map fun site => site old.sites.size).toList := by
  cases h with
  | spare hs =>
    refine ⟨tile, htile, ?_, ?_⟩
    · rw [BuildStep.placed?_of_sparesTiles hs, Option.getD_none]
    · simp [BuildStep.site?_of_sparesTiles hs]
  | set hold =>
    obtain ⟨old, hget, ⟨rfl, rfl, rfl⟩ | ⟨hne, rfl⟩⟩ := exists_of_getElem?_set hold htile
    · exact ⟨old, hget, by simp [BuildStep.placed?], by simp [BuildStep.site?]⟩
    · exact ⟨tile, hget, by simp [BuildStep.placed?, Ne.symm hne], by simp [BuildStep.site?]⟩
  | site hold =>
    obtain ⟨old, hget, ⟨rfl, rfl, rfl⟩ | ⟨hne, rfl⟩⟩ := exists_of_getElem?_set hold htile
    · exact ⟨old, hget, rfl, by simp [BuildStep.site?]⟩
    · exact ⟨tile, hget, rfl, by simp [BuildStep.site?, Ne.symm hne]⟩

theorem tiled (hchange : TilesChange width tiles s tiles') (h : Tiled width height before tiles) :
    Tiled width height (before ++ [s]) tiles' := by
  refine ⟨hchange.size.trans h.size, ?_, ?_⟩
  · intro t tile htile
    obtain ⟨old, hold, hplaced, -⟩ := hchange.exists_old htile
    rw [hplaced, BuildStep.lastPlaced_append, h.placed t old hold]
  · intro t tile htile
    obtain ⟨old, hold, -, hsites⟩ := hchange.exists_old htile
    rw [hsites, BuildStep.sitesOf_append, ← h.sites t old hold, Array.length_toList]

end TilesChange

theorem ChipBuilder.run_tiled {b b' : ChipBuilder} {steps : List BuildStep}
    {outs : List (Option Nat)} (hb : Tiled b.width b.height [] b.tiles)
    (h : b.run steps = .ok (outs, b')) : Tiled b'.width b'.height steps b'.tiles := by
  apply run_keeps (fun steps b => Tiled b.width b.height steps b.tiles) _ hb h
  intro before b s b' hb heffect
  obtain ⟨hwidth, hheight⟩ := Prod.mk.inj heffect.grid
  rw [hwidth, hheight]
  exact heffect.tiles.tiled hb

end Interconnect
