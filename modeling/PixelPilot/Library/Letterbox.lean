import Mathlib.Algebra.Order.Round
import Mathlib.Tactic.Linarith

/-!
# Fitting one rectangle into another

The largest rectangle of a given shape inside a frame, its sides rounded to whole units and
the rest shared out on both sides.

Main results:

- Definition `scale`: the factor by which a rectangle may grow.
- Theorem `scale_greatest`: no larger factor fits.
- Theorems `scale_of_wide` and `scale_of_tall`: which side fills the frame.
- Definition `extent`: a side in whole units, at least one.
- Theorem `extent_le`: rounding does not leave the frame.
- Theorem `margin_close`: opposite margins differ by at most one unit.
-/

namespace Letterbox

universe u

variable {K : Type u} [Field K] [LinearOrder K] [IsStrictOrderedRing K]

/-! ## The scale -/

/-- The largest factor by which a rectangle `a` by `b` fits into a frame `w` by `h`. -/
def scale (w h a b : K) : K :=
  min (w / a) (h / b)

variable {w h a b : K}

/-- The scaled width fits. -/
theorem scale_mul_left_le (ha : 0 < a) : scale w h a b * a ≤ w := by
  rw [← le_div_iff₀ ha]
  exact min_le_left _ _

/-- The scaled height fits. -/
theorem scale_mul_right_le (hb : 0 < b) : scale w h a b * b ≤ h := by
  rw [← le_div_iff₀ hb]
  exact min_le_right _ _

/-- No larger factor fits. -/
theorem scale_greatest (ha : 0 < a) (hb : 0 < b) {t : K} (hleft : t * a ≤ w)
    (hright : t * b ≤ h) : t ≤ scale w h a b := by
  rw [scale, le_min_iff, le_div_iff₀ ha, le_div_iff₀ hb]
  exact ⟨hleft, hright⟩

/-- A rectangle of a wider shape fills the width of the frame. -/
theorem scale_of_wide (ha : 0 < a) (hb : 0 < b) (hh : 0 < h) (hwide : w / h < a / b) :
    scale w h a b = w / a := by
  apply min_eq_left
  rw [div_lt_div_iff₀ hh hb] at hwide
  rw [div_le_div_iff₀ ha hb]
  linarith

/-- Another one fills the height. -/
theorem scale_of_tall (ha : 0 < a) (hb : 0 < b) (hh : 0 < h) (htall : a / b ≤ w / h) :
    scale w h a b = h / b := by
  apply min_eq_right
  rw [div_le_div_iff₀ hb hh] at htall
  rw [div_le_div_iff₀ hb ha]
  linarith

/-! ## Whole units -/

variable [FloorRing K]

/-- A side in whole units, rounded half up, of which there is at least one. -/
def extent (x : K) : ℤ :=
  max 1 (round x)

omit [IsStrictOrderedRing K] in
/-- An extent is at least one. -/
theorem extent_pos (x : K) : 1 ≤ extent x :=
  le_max_left _ _

theorem round_le_intCast {x : K} {n : ℤ} (hx : x ≤ n) : round x ≤ n := by
  rw [round_eq, ← Int.lt_add_one_iff, Int.floor_lt]
  push_cast
  linarith

/-- Rounding does not leave the frame. -/
theorem extent_le {x : K} {n : ℤ} (hn : 1 ≤ n) (hx : x ≤ n) : extent x ≤ n :=
  max_le hn (round_le_intCast hx)

theorem extent_intCast {n : ℤ} (hn : 1 ≤ n) : extent (n : K) = n := by
  rw [extent, round_intCast, max_eq_right hn]

/-! ## Margins -/

/-- The margin before a side inside a longer one. -/
def margin (outer inner : Nat) : Nat :=
  (outer - inner) / 2

/-- Margin and picture fit the outer extent. -/
theorem margin_add_le {outer inner : Nat} (h : inner ≤ outer) :
    margin outer inner + inner ≤ outer := by
  unfold margin
  omega

/-- The margin after it is as long, or one unit longer. -/
theorem margin_close {outer inner : Nat} :
    margin outer inner ≤ outer - inner - margin outer inner ∧
      outer - inner - margin outer inner ≤ margin outer inner + 1 := by
  unfold margin
  omega

end Letterbox
