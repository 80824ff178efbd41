import KMeansSeeding.Search
import Mathlib

/-!
# The order of scores

A search knows scores by `<` alone, and a score may fail to be a number. `ScoreOrder` is what the
results about searches assume of that order, and double-precision floats satisfy it: a float that is
a number has a `place` in a linear order, and the comparisons of floats compare places.
-/

namespace KMeansSeeding

/-- The laws of `<` that a search relies on. Numbers are ordered totally, up to numbers of equal
value; what is not a number compares with nothing. -/
class ScoreOrder (α : Type) [LT α] [Unbounded α] where
  IsNumber : α → Prop
  isNumber_infinity : IsNumber Unbounded.infinity
  isNumber_of_lt {a b : α} : a < b → IsNumber a ∧ IsNumber b
  lt_irrefl (a : α) : ¬ a < a
  lt_trans {a b c : α} : a < b → b < c → a < c
  /-- A number cannot lie outside of both ends of a proper stretch. -/
  lt_or_lt {a b c : α} : a < c → IsNumber b → a < b ∨ b < c

/-! ## Double-precision floats -/

section Double

open Float.Model

/-- The place of an unpacked float: by its class, then by exponent and significand, which count down
for negative numbers. What is not a number stands at zero and is never compared. -/
def unpackedPlace : UnpackedFloat → ℤ ×ₗ ℤ ×ₗ ℤ
  | .infinity .negative => toLex (-2, toLex (0, 0))
  | .finite .negative significand exponent _ => toLex (-1, toLex (-exponent, -significand))
  | .notANumber | .zero _ => toLex (0, toLex (0, 0))
  | .finite .positive significand exponent _ => toLex (1, toLex (exponent, significand))
  | .infinity .positive => toLex (2, toLex (0, 0))

/-- The place of a float among the numbers. -/
def place (value : Float) : ℤ ×ₗ ℤ ×ₗ ℤ :=
  unpackedPlace value.toModel.unpack

private theorem compare_natCast (m n : ℕ) : compare (m : ℤ) n = compare m n := by
  simp only [Int.compare_eq_ite_lt, Nat.compare_eq_ite_lt, Int.ofNat_lt]

private theorem compare_neg (m n : ℤ) : compare (-m) (-n) = (compare m n).swap := by
  rw [Int.compare_swap, Int.compare_eq_ite_lt, Int.compare_eq_ite_lt]
  simp only [Int.neg_lt_neg_iff]

/-- Numbers of one class compare by exponent, then by significand. -/
private theorem compare_place (kind e e' m m' : ℤ) :
    compare (toLex (kind, toLex (e, m))) (toLex (kind, toLex (e', m')))
      = (compare e e').then (compare m m') := by
  show (compare kind kind).then _ = _
  rw [Std.ReflOrd.compare_self]
  rfl

/-- Unpacked numbers compare as their places do. -/
theorem compare_unpacked {a b : UnpackedFloat} (ha : a.isNaN = false) (hb : b.isNaN = false) :
    a.compare b = some (compare (unpackedPlace a) (unpackedPlace b)) := by
  -- only two finite numbers of one sign need more than their classes
  rcases a with (_ | _) | _ | _ | ⟨_ | _, m, e, _⟩ <;>
    rcases b with (_ | _) | _ | _ | ⟨_ | _, m', e', _⟩ <;>
      simp_all [UnpackedFloat.compare, unpackedPlace, UnpackedFloat.isNaN, compare_natCast,
        compare_neg, compare_place, Ordering.swap_then] <;>
      rfl

/-- What is not a number compares with nothing. -/
theorem compare_unpacked_eq_none {a b : UnpackedFloat} (h : a.isNaN = true ∨ b.isNaN = true) :
    a.compare b = none := by
  cases a <;> cases b <;> simp_all [UnpackedFloat.isNaN, UnpackedFloat.compare]

variable {a b : Float}

theorem compare_float (ha : a.isNaN = false) (hb : b.isNaN = false) :
    a.toModel.unpack.compare b.toModel.unpack = some (compare (place a) (place b)) :=
  compare_unpacked ha hb

theorem le_iff_place (ha : a.isNaN = false) (hb : b.isNaN = false) :
    a ≤ b ↔ place a ≤ place b := by
  refine Iff.trans decide_eq_true_iff ?_
  show (a.toModel.unpack.compare b.toModel.unpack).any (·.isLE) = true ↔ _
  rw [compare_float ha hb, Option.any_some, ← compare_le_iff_le, Ordering.isLE_iff_ne_gt]

theorem beq_iff_place (ha : a.isNaN = false) (hb : b.isNaN = false) :
    (a == b) = true ↔ place a = place b := by
  show (a.toModel.unpack.compare b.toModel.unpack == some .eq) = true ↔ _
  rw [compare_float ha hb, beq_iff_eq, Option.some.injEq, compare_eq_iff_eq]

/-- A float is below another if both are numbers and their places are in that order. -/
theorem lt_iff_place : a < b ↔ a.isNaN = false ∧ b.isNaN = false ∧ place a < place b := by
  refine Iff.trans decide_eq_true_iff ?_
  show (a.toModel.unpack.compare b.toModel.unpack == some .lt) = true ↔ _
  rw [beq_iff_eq]
  by_cases h : a.isNaN = false ∧ b.isNaN = false
  · rw [compare_float h.1 h.2, Option.some.injEq, compare_lt_iff_lt]
    exact ⟨fun lower => ⟨h.1, h.2, lower⟩, fun lower => lower.2.2⟩
  · have none : a.toModel.unpack.compare b.toModel.unpack = none := by
      refine compare_unpacked_eq_none ?_
      rcases Classical.not_and_iff_not_or_not.mp h with h | h
      · exact .inl ((Bool.not_eq_false _).mp h)
      · exact .inr ((Bool.not_eq_false _).mp h)
    rw [none]
    exact ⟨nofun, fun numbers => absurd ⟨numbers.1, numbers.2.1⟩ h⟩

instance : ScoreOrder Float where
  IsNumber value := value.isNaN = false
  isNumber_infinity := by decide
  isNumber_of_lt lower := ⟨(lt_iff_place.mp lower).1, (lt_iff_place.mp lower).2.1⟩
  lt_irrefl _ lower := (lt_iff_place.mp lower).2.2.false
  lt_trans lower upper := by
    obtain ⟨ha, -, lower⟩ := lt_iff_place.mp lower
    obtain ⟨-, hc, upper⟩ := lt_iff_place.mp upper
    exact lt_iff_place.mpr ⟨ha, hc, lower.trans upper⟩
  lt_or_lt {a b c} ends hb := by
    obtain ⟨ha, hc, ends⟩ := lt_iff_place.mp ends
    rcases lt_or_ge (place a) (place b) with lower | upper
    · exact .inl (lt_iff_place.mpr ⟨ha, hb, lower⟩)
    · exact .inr (lt_iff_place.mpr ⟨hb, hc, upper.trans_lt ends⟩)

/-- Of two numbers, one is at most the other if it is not above it. -/
theorem le_of_not_lt (ha : a.isNaN = false) (hb : b.isNaN = false) (h : ¬ b < a) : a ≤ b := by
  rw [le_iff_place ha hb]
  rw [lt_iff_place] at h
  exact not_lt.mp fun lower => h ⟨hb, ha, lower⟩

/-- Numbers are of equal value if neither is below the other. -/
theorem beq_of_not_lt (ha : a.isNaN = false) (hb : b.isNaN = false) (h : ¬ a < b) (h' : ¬ b < a) :
    (a == b) = true := by
  rw [beq_iff_place ha hb]
  rw [lt_iff_place] at h h'
  exact le_antisymm (not_lt.mp fun lower => h' ⟨hb, ha, lower⟩)
    (not_lt.mp fun lower => h ⟨ha, hb, lower⟩)

/-- Numbers of equal value are not below one another. -/
theorem not_lt_of_beq (ha : a.isNaN = false) (hb : b.isNaN = false) (h : (a == b) = true) :
    ¬ a < b := by
  rw [beq_iff_place ha hb] at h
  exact fun lower => (lt_iff_place.mp lower).2.2.ne h

end Double

end KMeansSeeding
