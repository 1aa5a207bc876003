import Mathlib.Data.Prod.Lex
import PixelPilot.Modeset.Model

/-!
# The order of the modes

`better_mode` compares four numbers, one after the other.

Main results:

- Definition `modeKey`: the four numbers.
- Theorem `betterMode_iff`: the better mode has the greater key.
- Theorem `betterMode_strictWeakOrder`: being better is a strict weak order.
- Theorem `bestMode_best`: the loop keeps the first of the best modes.
-/

namespace PixelPilot
namespace Modeset

variable (hz : UInt32 → UInt16 → UInt16 → Int)

/-- The refresh rate, the area, whether the mode is preferred, and the clock. -/
def modeKey (m : ModeInfo) : ℤ ×ₗ ℕ ×ₗ ℕ ×ₗ ℕ :=
  toLex (vrefresh hz m,
    toLex (m.hdisplay.toNat * m.vdisplay.toNat,
      toLex (if m.type &&& drmModeTypePreferred ≠ 0 then 1 else 0, m.clock.toNat)))

/-- A comparison that goes on only where it finds no difference. -/
theorem lex_step {α β : Type} [LinearOrder α] [LinearOrder β] {a b : α} {c d : β}
    {rest : Bool} (hrest : rest = true ↔ d < c) :
    (if a ≠ b then decide (a > b) else rest) = true ↔ toLex (b, d) < toLex (a, c) := by
  rw [Prod.Lex.toLex_lt_toLex]
  by_cases hab : a = b
  · rw [if_neg (not_not.mpr hab), hrest, hab]
    simp
  · rw [if_pos hab, decide_eq_true_iff]
    constructor
    · exact Or.inl
    · rintro (hlt | ⟨heq, -⟩)
      · exact hlt
      · exact absurd heq.symm hab

/-- The better mode has the greater key. -/
theorem betterMode_iff (a b : ModeInfo) :
    betterMode hz a b = true ↔ modeKey hz b < modeKey hz a := by
  unfold betterMode modeKey
  refine lex_step (lex_step (lex_step ?_))
  rw [decide_eq_true_iff, gt_iff_lt, UInt32.lt_iff_toNat_lt]

/-- Being better is a strict weak order on all modes. -/
theorem betterMode_strictWeakOrder :
    IsStrictWeakOrder ModeInfo fun a b => betterMode hz a b = true where
  irrefl a := by
    rw [betterMode_iff]
    exact lt_irrefl _
  trans a b c hab hbc := by
    rw [betterMode_iff] at hab hbc ⊢
    exact hbc.trans hab
  incomp_trans a b c hab hbc := by
    simp only [betterMode_iff, not_lt] at hab hbc ⊢
    exact ⟨hab.1.trans hbc.1, hbc.2.trans hab.2⟩

/-- The best mode is the maximum so far. -/
theorem bestMode_eq_running (modes : List ModeInfo) (best : ModeInfo) :
    bestMode hz modes best = Search.running (betterMode hz) best modes := by
  induction modes generalizing best with
  | nil => rfl
  | cons m modes ih =>
      unfold bestMode
      rw [ih]
      rfl

/-- A mode of the list that no other one is better than, and the first such. -/
structure IsBest (modes : List ModeInfo) (best : ModeInfo) : Prop where
  mem : best ∈ modes
  maximal : ∀ m ∈ modes, modeKey hz m ≤ modeKey hz best
  earliest : ∀ m ∈ modes, modeKey hz best ≤ modeKey hz m → modes.idxOf best ≤ modes.idxOf m

/-- The loop keeps the first of the best modes. -/
theorem bestMode_best (m : ModeInfo) (modes : List ModeInfo) :
    IsBest hz (m :: modes) (bestMode hz modes m) := by
  have hargmax := Search.running_eq_argmax (betterMode_iff hz) m modes
  rw [← bestMode_eq_running] at hargmax
  obtain ⟨hmem, hmaximal, hearliest⟩ := List.argmax_eq_some_iff.mp hargmax.symm
  exact ⟨hmem, hmaximal, hearliest⟩

end Modeset
end PixelPilot
