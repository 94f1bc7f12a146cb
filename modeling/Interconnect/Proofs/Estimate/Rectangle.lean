import Interconnect.Grid
import Mathlib.Algebra.Order.Group.Unbundled.Int
import Mathlib.Order.Bounds.Defs
/-!
# Distances from a rectangle

A rectangle is an interval of columns and one of rows. A number is as far from an interval as from the
nearest number in it, and the ways along both axes add up, so the distance of a point from a rectangle is
that from the nearest of its points. Between two corners lies the least rectangle that has both of them.
-/
namespace Interconnect.Rect

/-! ### Intervals -/

section
variable {lo hi u x : Int}

/-- How far a number lies outside an interval, on either side. -/
def gap (lo hi x : Int) : Int := max (lo - x) 0 + max (x - hi) 0

/-- The number in an interval that is nearest to a number. -/
def clamp (lo hi x : Int) : Int := max lo (min x hi)

theorem le_clamp : lo ≤ clamp lo hi x := Int.le_max_left ..

theorem clamp_le (h : lo ≤ hi) : clamp lo hi x ≤ hi := Int.max_le.2 ⟨h, Int.min_le_right ..⟩

theorem gap_eq_abs_sub_clamp (h : lo ≤ hi) : gap lo hi x = |x - clamp lo hi x| := by
  rw [Int.abs_eq_natAbs, gap, clamp]
  omega

theorem gap_le_abs_sub (hlo : lo ≤ u) (hhi : u ≤ hi) : gap lo hi x ≤ |x - u| := by
  rw [Int.abs_eq_natAbs, gap]
  omega

theorem gap_nonneg : 0 ≤ gap lo hi x := Int.add_nonneg (Int.le_max_right ..) (Int.le_max_right ..)

theorem gap_eq_zero_iff : gap lo hi x = 0 ↔ lo ≤ x ∧ x ≤ hi := by
  rw [gap]
  omega

end

/-! ### Distances -/

variable {r : Rect} {a b : Int × Int} {d u v x y : Int}

theorem contains_iff : r.contains u v ↔ (r.x0 ≤ u ∧ u ≤ r.x1) ∧ r.y0 ≤ v ∧ v ≤ r.y1 := by
  simp only [contains, Bool.and_eq_true, decide_eq_true_eq]
  omega

theorem distance_eq_gaps : r.distance x y = gap r.x0 r.x1 x + gap r.y0 r.y1 y := by
  simp only [distance, gap, Int.add_assoc]

theorem distance_eq_zero_iff : r.distance x y = 0 ↔ r.contains x y := by
  have hcolumns : 0 ≤ gap r.x0 r.x1 x := gap_nonneg
  have hrows : 0 ≤ gap r.y0 r.y1 y := gap_nonneg
  rw [distance_eq_gaps, contains_iff, ← gap_eq_zero_iff, ← gap_eq_zero_iff]
  omega

theorem distance_le (h : r.contains u v) : r.distance x y ≤ |x - u| + |y - v| := by
  obtain ⟨⟨hleft, hright⟩, hbottom, htop⟩ := contains_iff.1 h
  rw [distance_eq_gaps]
  exact Int.add_le_add (gap_le_abs_sub hleft hright) (gap_le_abs_sub hbottom htop)

theorem exists_nearest (hcolumns : r.x0 ≤ r.x1) (hrows : r.y0 ≤ r.y1) :
    ∃ u v, r.contains u v ∧ r.distance x y = |x - u| + |y - v| := by
  refine ⟨clamp r.x0 r.x1 x, clamp r.y0 r.y1 y, ?_, ?_⟩
  · exact contains_iff.2 ⟨⟨le_clamp, clamp_le hcolumns⟩, le_clamp, clamp_le hrows⟩
  · rw [distance_eq_gaps, gap_eq_abs_sub_clamp hcolumns, gap_eq_abs_sub_clamp hrows]

/-! ### Words -/

/-- The differences between a point and the sides of a rectangle, and its distance, fit words. -/
structure FitsWords (r : Rect) (x y : Int) : Prop where
  left : FitsWord (r.x0 - x)
  right : FitsWord (x - r.x1)
  bottom : FitsWord (r.y0 - y)
  top : FitsWord (y - r.y1)
  distance : FitsWord (r.distance x y)

theorem measure_eq_ok_iff : r.measure x y = .ok d ↔ r.FitsWords x y ∧ r.distance x y = d := by
  simp only [measure, List.forIn_cons, List.forIn_nil, bind_assoc, pure_bind, bind_eq_ok_iff,
    word_eq_ok_iff]
  constructor
  · rintro ⟨_, ⟨hleft, -⟩, _, ⟨hright, -⟩, _, ⟨hbottom, -⟩, _, ⟨htop, -⟩, hdistance, rfl⟩
    exact ⟨⟨hleft, hright, hbottom, htop, hdistance⟩, rfl⟩
  · rintro ⟨⟨hleft, hright, hbottom, htop, hdistance⟩, rfl⟩
    exact ⟨_, ⟨hleft, rfl⟩, _, ⟨hright, rfl⟩, _, ⟨hbottom, rfl⟩, _, ⟨htop, rfl⟩, hdistance, rfl⟩

/-! ### Corners -/

theorem spanning_comm (a b : Int × Int) : spanning a b = spanning b a := by
  simp only [spanning, Int.min_comm, Int.max_comm]

theorem columns_spanning : (spanning a b).x0 ≤ (spanning a b).x1 :=
  Int.le_trans (Int.min_le_left ..) (Int.le_max_left ..)

theorem rows_spanning : (spanning a b).y0 ≤ (spanning a b).y1 :=
  Int.le_trans (Int.min_le_left ..) (Int.le_max_left ..)

/-- A rectangle has two points, and every rectangle that has both has all of it. -/
structure LeastAround (r : Rect) (a b : Int × Int) : Prop where
  first : r.contains a.1 a.2
  second : r.contains b.1 b.2
  least : ∀ other : Rect, other.contains a.1 a.2 → other.contains b.1 b.2 →
    ∀ u v, r.contains u v → other.contains u v

theorem leastAround_spanning (a b : Int × Int) : (spanning a b).LeastAround a b := by
  constructor
  case first =>
    simp only [contains_iff, spanning]
    omega
  case second =>
    simp only [contains_iff, spanning]
    omega
  case least =>
    intro other hfirst hsecond u v h
    simp only [contains_iff, spanning] at hfirst hsecond h ⊢
    omega

/-- The rectangle between two corners, in either order, is the least that has both. As long as no difference
is beyond a word, a point is measured to be as far from it as from the nearest of its points, and not away
from it exactly where it has the point. -/
theorem spanning_measures_nearest (a b : Int × Int) :
    (spanning a b).LeastAround a b ∧ spanning a b = spanning b a ∧
      ∀ x y, (spanning a b).FitsWords x y → ∃ d, (spanning a b).measure x y = .ok d ∧
        IsLeast {n | ∃ u v, (spanning a b).contains u v ∧ n = |x - u| + |y - v|} d ∧
        (d = 0 ↔ (spanning a b).contains x y) := by
  refine ⟨leastAround_spanning a b, spanning_comm a b, fun x y hfits => ?_⟩
  refine ⟨_, measure_eq_ok_iff.2 ⟨hfits, rfl⟩, ⟨?_, ?_⟩, distance_eq_zero_iff⟩
  · exact exists_nearest columns_spanning rows_spanning
  · rintro n ⟨u, v, hcontains, rfl⟩
    exact distance_le hcontains

/-- A point right of a rectangle and below it. -/
theorem spanning_measures_nearest_outside : (spanning (4, 1) (2, 3)).FitsWords 6 0 ∧
    (spanning (4, 1) (2, 3)).measure 6 0 = .ok 3 ∧
    IsLeast {n | ∃ u v, (spanning (4, 1) (2, 3)).contains u v ∧ n = |6 - u| + |0 - v|} 3 := by
  have hfits : (spanning (4, 1) (2, 3)).FitsWords 6 0 := by constructor <;> decide
  have hmeasure : (spanning (4, 1) (2, 3)).measure 6 0 = .ok 3 := by decide
  obtain ⟨d, hd, hleast, -⟩ := (spanning_measures_nearest (4, 1) (2, 3)).2.2 6 0 hfits
  obtain rfl := Except.ok.inj (hmeasure.symm.trans hd)
  exact ⟨hfits, hmeasure, hleast⟩

end Interconnect.Rect
