import KMeansSeeding.Proofs.Binary.Laws
import KMeansSeeding.Proofs.Binary.Widening

/-!
# Numbers that double precision has

Rounding only matters for results that are not doubles themselves. A sum, a difference or a product of
finite doubles that is `Representable` is computed exactly (`StandsFor.add`, `StandsFor.sub`,
`StandsFor.mul`). Whole numbers of at most 53 binary digits are representable (`representable_intCast`).
-/

namespace KMeansSeeding

open Float.Model Float.Model.UnpackedFloat

/-- A finite double that is equal to a number. -/
structure StandsFor (value : Float) (number : ℚ) : Prop where
  finite : value.isFinite = true
  number_eq : numberOfDouble value = number

/-- A number that some double is equal to. -/
def Representable (number : ℚ) : Prop :=
  ∃ value, StandsFor value number

/-! ## Exact operations -/

section Operations

variable {x y : Float} {a b : ℚ}

/-- A number that is representable survives rounding and packing. -/
theorem standsFor_pack {number : ℚ} {value : UnpackedFloat} (h : Rounded number value)
    (representable : Representable number) : StandsFor (.ofModel (.pack value)) number := by
  obtain ⟨double, finite, rfl⟩ := representable
  have same : unpackedNumber value = numberOfDouble double := by
    have roundsTo := h.roundsTo
    rw [numberOfDouble_eq] at roundsTo ⊢
    exact roundsTo.eq_self (isDouble_unpack finite)
  have bounded : |unpackedNumber value| < 2 ^ (1024 : ℤ) := by
    rw [same]
    exact abs_numberOfDouble_lt finite
  obtain ⟨finite, number⟩ := packed_eq h.isDouble bounded
  exact ⟨finite, number.trans same⟩

theorem standsFor_zero : StandsFor 0 0 :=
  ⟨isFinite_zero, numberOfDouble_zero⟩

theorem standsFor_two : StandsFor 2 2 :=
  ⟨isFinite_two, numberOfDouble_two⟩

theorem standsFor_widenSingle {component : Float32} (finite : component.isFinite = true) :
    StandsFor (widenSingle component) (numberOfSingle component) := by
  obtain ⟨finite, number⟩ := widenSingle_eq finite
  exact ⟨finite, number⟩

namespace StandsFor

variable (hx : StandsFor x a) (hy : StandsFor y b)

include hx hy

theorem add (representable : Representable (a + b)) : StandsFor (x + y) (a + b) := by
  obtain ⟨finite_x, rfl⟩ := hx
  obtain ⟨finite_y, rfl⟩ := hy
  exact standsFor_pack (rounded_sum finite_x finite_y) representable

theorem sub (representable : Representable (a - b)) : StandsFor (x - y) (a - b) := by
  obtain ⟨finite_x, rfl⟩ := hx
  obtain ⟨finite_y, rfl⟩ := hy
  exact standsFor_pack (rounded_difference finite_x finite_y) representable

theorem mul (representable : Representable (a * b)) : StandsFor (x * y) (a * b) := by
  obtain ⟨finite_x, rfl⟩ := hx
  obtain ⟨finite_y, rfl⟩ := hy
  exact standsFor_pack (rounded_product finite_x finite_y) representable

theorem lt_iff : x < y ↔ a < b := by
  rw [lt_iff_number hx.finite hy.finite, hx.number_eq, hy.number_eq]

end StandsFor

end Operations

/-! ## Which numbers are representable -/

section Representable

/-- A number of at most 53 digits on a grid that is not too coarse. -/
theorem representable_of_onGrid {number : ℚ} {unit : ℤ} (least : -1074 ≤ unit) (greatest : unit ≤ 971)
    (grid : OnGrid unit number) (digits : |number| < 2 ^ (unit + 53)) : Representable number := by
  obtain ⟨n, rfl⟩ := id grid
  have rounded := rounded_normalize n unit .positive
  have same := rounded.roundsTo.eq least grid digits
  have bounded : |unpackedNumber (UnpackedFloat.normalize .binary64 n unit .positive)|
      < 2 ^ (1024 : ℤ) := by
    rw [same]
    exact digits.trans_le (two_zpow_le.mpr (by omega))
  obtain ⟨finite, number⟩ := packed_eq rounded.isDouble bounded
  exact ⟨_, finite, number.trans same⟩

/-- A whole number up to `2 ^ 53`. -/
theorem representable_intCast {n : ℤ} (bounded : |(n : ℚ)| ≤ 2 ^ 53) : Representable n := by
  by_cases below : |(n : ℚ)| < 2 ^ 53
  · apply representable_of_onGrid (show -1074 ≤ (0 : ℤ) by norm_num) (by norm_num)
    · exact ⟨n, by simp⟩
    · exact_mod_cast below
  · -- the bound itself has 54 digits, and is even
    have large : |(n : ℚ)| = 2 ^ 53 := le_antisymm bounded (not_lt.mp below)
    apply representable_of_onGrid (show -1074 ≤ (1 : ℤ) by norm_num) (by norm_num)
    · rcases abs_eq (by positivity) |>.mp large with number | number
      · exact ⟨2 ^ 52, by rw [number]; norm_num⟩
      · exact ⟨-2 ^ 52, by rw [number]; norm_num⟩
    · rw [large]
      norm_num

end Representable

end KMeansSeeding
