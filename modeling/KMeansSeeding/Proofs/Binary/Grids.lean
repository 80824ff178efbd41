import Mathlib

/-!
# Rounding to 53 digits

What a double-precision operation does to its exact result is stated on fractions, before any float
is in sight. `OnGrid unit x` says that `x` is a whole number of units `2 ^ unit`. A number is rounded
by choosing the unit that leaves it 53 digits, or the least unit if that is larger, and moving it to
a point of this grid at most half a unit away (`RoundsTo`). Three facts about this are all that the
analysis of sums needs: a number of 53 digits stays (`RoundsTo.eq`), the error is small against the
number (`RoundsTo.near`), and a sum that is hardly above a power of two comes back to it
(`RoundsTo.abs_le`).
-/

namespace KMeansSeeding

section Powers

variable {a b : ℤ}

theorem two_zpow_lt : (2 : ℚ) ^ a < 2 ^ b ↔ a < b :=
  zpow_lt_zpow_iff_right₀ one_lt_two

theorem two_zpow_le : (2 : ℚ) ^ a ≤ 2 ^ b ↔ a ≤ b :=
  zpow_le_zpow_iff_right₀ one_lt_two

theorem two_zpow_add_one (a : ℤ) : (2 : ℚ) ^ (a + 1) = 2 * 2 ^ a := by
  rw [zpow_add_one₀ two_ne_zero, mul_comm]

theorem two_zpow_half (a : ℤ) : (2 : ℚ) ^ a = 2 * 2 ^ (a - 1) := by
  rw [← two_zpow_add_one, sub_add_cancel]

end Powers

/-! ## Grids -/

/-- `x` is a whole number of units `2 ^ unit`. -/
def OnGrid (unit : ℤ) (x : ℚ) : Prop :=
  ∃ count : ℤ, x = count * 2 ^ unit

namespace OnGrid

variable {unit fine coarse : ℤ} {x y : ℚ}

theorem mono (finer : fine ≤ coarse) (h : OnGrid coarse x) : OnGrid fine x := by
  obtain ⟨count, rfl⟩ := h
  obtain ⟨places, rfl⟩ := Int.le.dest finer
  refine ⟨count * 2 ^ places, ?_⟩
  rw [zpow_add₀ two_ne_zero, zpow_natCast]
  push_cast
  ring

theorem two_zpow (finer : fine ≤ coarse) : OnGrid fine (2 ^ coarse) :=
  mono finer ⟨1, by simp⟩

theorem add (hx : OnGrid unit x) (hy : OnGrid unit y) : OnGrid unit (x + y) := by
  obtain ⟨m, rfl⟩ := hx
  obtain ⟨n, rfl⟩ := hy
  exact ⟨m + n, by push_cast; ring⟩

theorem neg (hx : OnGrid unit x) : OnGrid unit (-x) := by
  obtain ⟨m, rfl⟩ := hx
  exact ⟨-m, by push_cast; ring⟩

theorem sub (hx : OnGrid unit x) (hy : OnGrid unit y) : OnGrid unit (x - y) :=
  sub_eq_add_neg x y ▸ hx.add hy.neg

theorem abs (hx : OnGrid unit x) : OnGrid unit |x| := by
  rcases abs_choice x with h | h <;> rw [h]
  · exact hx
  · exact hx.neg

theorem mul (hx : OnGrid fine x) (hy : OnGrid coarse y) : OnGrid (fine + coarse) (x * y) := by
  obtain ⟨m, rfl⟩ := hx
  obtain ⟨n, rfl⟩ := hy
  exact ⟨m * n, by rw [zpow_add₀ two_ne_zero]; push_cast; ring⟩

/-- Different numbers of one grid are at least a unit apart. -/
theorem add_le (hx : OnGrid unit x) (hy : OnGrid unit y) (below : x < y) : x + 2 ^ unit ≤ y := by
  obtain ⟨m, rfl⟩ := hx
  obtain ⟨n, rfl⟩ := hy
  have positive : (0 : ℚ) < 2 ^ unit := by positivity
  have counts : m + 1 ≤ n := by
    have := lt_of_mul_lt_mul_right below positive.le
    exact_mod_cast this
  calc (m : ℚ) * 2 ^ unit + 2 ^ unit = ((m + 1 : ℤ) : ℚ) * 2 ^ unit := by push_cast; ring
    _ ≤ n * 2 ^ unit := by gcongr

/-- Only zero is closer to zero than a unit. -/
theorem eq_zero (hx : OnGrid unit x) (small : |x| < 2 ^ unit) : x = 0 := by
  by_contra nonzero
  have apart := add_le ⟨0, by simp⟩ hx.abs (abs_pos.mpr nonzero)
  rw [zero_add] at apart
  exact absurd small (not_lt.mpr apart)

end OnGrid

/-! ## Rounding -/

/-- `rounded` is `exact`, moved to the grid of `2 ^ unit`, which leaves it 53 digits. -/
structure RoundsAt (unit : ℤ) (exact rounded : ℚ) : Prop where
  least : -1074 ≤ unit
  digits : |exact| < 2 ^ (unit + 53)
  leading : unit = -1074 ∨ 2 ^ (unit + 52) ≤ |exact|
  grid : OnGrid unit rounded
  near : |rounded - exact| ≤ 2 ^ (unit - 1)

/-- `rounded` is `exact`, rounded to double precision; a tie may go either way. -/
def RoundsTo (exact rounded : ℚ) : Prop :=
  ∃ unit, RoundsAt unit exact rounded

namespace RoundsTo

variable {exact rounded : ℚ} (h : RoundsTo exact rounded)

include h

theorem neg : RoundsTo (-exact) (-rounded) := by
  obtain ⟨unit, least, digits, leading, grid, near⟩ := h
  refine ⟨unit, least, by rwa [abs_neg], by rwa [abs_neg], grid.neg, ?_⟩
  rwa [neg_sub_neg, abs_sub_comm]

theorem onGrid : OnGrid (-1074) rounded := by
  obtain ⟨unit, least, -, -, grid, -⟩ := h
  exact grid.mono least

/-- A number of at most 53 digits stays as it is. -/
theorem eq {unit : ℤ} (least : -1074 ≤ unit) (grid : OnGrid unit exact)
    (digits : |exact| < 2 ^ (unit + 53)) : rounded = exact := by
  obtain ⟨place, -, -, leading, places, near⟩ := h
  have finer : place ≤ unit := by
    rcases leading with subnormal | leading
    · omega
    · have := two_zpow_lt.mp (leading.trans_lt digits)
      omega
  refine sub_eq_zero.mp ((places.sub (grid.mono finer)).eq_zero (near.trans_lt ?_))
  exact two_zpow_lt.mpr (by omega)

/-- On the least grid, rounding changes a number by at most a part in `2 ^ 53`. -/
theorem near (grid : OnGrid (-1074) exact) : |rounded - exact| ≤ 2 ^ (-53 : ℤ) * |exact| := by
  have whole := h
  obtain ⟨unit, -, digits, subnormal | leading, -, near⟩ := h
  · -- below the least normal number nothing is rounded
    rw [whole.eq le_rfl grid (subnormal ▸ digits), sub_self, abs_zero]
    positivity
  · calc |rounded - exact| ≤ 2 ^ (unit - 1) := near
      _ = 2 ^ (-53 : ℤ) * 2 ^ (unit + 52) := by
        rw [← zpow_add₀ two_ne_zero]
        congr 1
        ring
      _ ≤ 2 ^ (-53 : ℤ) * |exact| := by gcongr

/-- What is hardly above a power of two is not rounded up from it. -/
theorem abs_le {bound : ℤ} (normal : -1022 ≤ bound)
    (le : |exact| ≤ 2 ^ bound + 2 ^ (bound - 54)) : |rounded| ≤ 2 ^ bound := by
  obtain ⟨unit, -, digits, leading, grid, near⟩ := h
  have below : |exact| < 2 ^ (bound + 1) := by
    have : (2 : ℚ) ^ (bound - 54) < 2 ^ bound := two_zpow_lt.mpr (by omega)
    rw [two_zpow_add_one]
    linarith
  have finer : unit ≤ bound - 52 := by
    rcases leading with subnormal | leading
    · omega
    · have := two_zpow_lt.mp (leading.trans_lt below)
      omega
  by_contra above
  -- the next number of the grid is a unit away, and rounding moved the exact one by half of that
  have apart := OnGrid.add_le (OnGrid.two_zpow (show unit ≤ bound by omega)) grid.abs
    (not_le.mp above)
  have moved : |rounded| - |exact| ≤ 2 ^ (unit - 1) := (abs_sub_abs_le_abs_sub _ _).trans near
  have half := two_zpow_half unit
  have small : (2 : ℚ) ^ (unit - 1) ≤ 2 ^ (bound - 54) := by linarith
  have digits_le : (2 : ℚ) ^ (unit + 53) ≤ 2 ^ bound :=
    two_zpow_le.mpr (by have := two_zpow_le.mp small; omega)
  have positive : (0 : ℚ) < 2 ^ (unit - 1) := by positivity
  linarith

end RoundsTo

end KMeansSeeding
