import KMeansSeeding.Proofs.Binary.Rounding
import KMeansSeeding.Search

/-!
# Double-precision arithmetic on numbers

Sums, differences and products of finite doubles are finite and correctly rounded as long as the exact
result stays below the largest binade (`Evaluates`). Widening a single to a double loses nothing, and
neither does the product of two widened singles or doubling.
-/

namespace KMeansSeeding

open Float.Model Float.Model.UnpackedFloat

/-- `value` is finite and is the number `exact`, rounded to double precision. -/
structure Evaluates (exact : ℚ) (value : Float) : Prop where
  finite : value.isFinite = true
  roundsTo : RoundsTo exact (numberOfDouble value)

theorem number_ofUnpacked (layout : Layout) (value : UnpackedFloat) :
    (Reading.ofUnpacked layout value).number = unpackedNumber value := by
  cases value with
  | zero sign => cases sign <;> simp [Reading.ofUnpacked, Reading.number, unpackedNumber]
  | finite sign => cases sign <;> rfl
  | _ => rfl

theorem numberOfDouble_eq (value : Float) :
    numberOfDouble value = unpackedNumber value.toModel.unpack := by
  rw [numberOfDouble, ofDouble_eq, number_ofUnpacked]

section Finite

variable {x y : Float}

/-- The fields of a finite double. -/
theorem exists_fields (finite : x.isFinite = true) :
    ∃ sign significand exponent, Layout.double.Holds significand exponent ∧
      x.toModel.unpack = ofFields sign significand exponent := by
  obtain ⟨negative, significand, exponent, reads⟩ := isFinite_iff_ofDouble.mp finite
  have holds := holds_of_decode reads
  rw [ofDouble_eq] at reads
  cases unpacked : x.toModel.unpack with
  | zero sign => exact ⟨sign, 0, -1074, ⟨by norm_num, le_rfl, .inl rfl, by decide⟩, rfl⟩
  | finite sign m e positive =>
    rw [unpacked] at reads
    obtain ⟨-, rfl, rfl⟩ := Reading.finite.inj reads
    refine ⟨sign, m, e, holds, ?_⟩
    rw [ofFields, dif_neg positive.ne']
  | _ => rw [unpacked] at reads; cases reads

theorem isDouble_unpack (finite : x.isFinite = true) : IsDouble x.toModel.unpack := by
  obtain ⟨sign, significand, exponent, holds, unpacked⟩ := exists_fields finite
  exact ⟨sign, significand, exponent, holds.canonical, unpacked⟩

/-- There are no finite doubles from `2 ^ 1024` on. -/
theorem abs_numberOfDouble_lt (finite : x.isFinite = true) :
    |numberOfDouble x| < 2 ^ (1024 : ℤ) := by
  obtain ⟨sign, significand, exponent, holds, unpacked⟩ := exists_fields finite
  have greatest : exponent ≤ 971 := holds.greatest
  rw [numberOfDouble_eq, unpacked, unpackedNumber_ofFields, abs_mul, abs_apply,
    abs_of_pos (by positivity)]
  calc (significand : ℚ) * 2 ^ exponent < 2 ^ (53 : ℤ) * 2 ^ exponent := by
        gcongr
        exact_mod_cast holds.digits
    _ = 2 ^ (53 + exponent) := (zpow_add₀ two_ne_zero _ _).symm
    _ ≤ 2 ^ (1024 : ℤ) := two_zpow_le.mpr (by omega)

/-- An unpacked double of bounded magnitude unpacks as it was packed. -/
theorem unpack_pack {value : UnpackedFloat} (h : IsDouble value)
    (fits : |unpackedNumber value| < 2 ^ (1024 : ℤ)) : (Float.Model.pack value).unpack = value := by
  rcases h.cases with ⟨sign, rfl⟩ | ⟨sign, m, e, positive, canonical, rfl⟩
  · exact unpack_packedZero
  · refine unpack_pack_finite positive canonical ?_
    by_contra large
    have leading : 2 ^ 52 ≤ m := canonical.leading.resolve_left (by omega)
    have lower : (2 : ℚ) ^ (e + 52) ≤ m * 2 ^ e := by
      rw [zpow_add₀ two_ne_zero, mul_comm]
      gcongr
      exact_mod_cast leading
    have magnitude : |unpackedNumber (.finite sign m e positive)| = m * 2 ^ e := by
      rw [unpackedNumber, abs_mul, abs_apply, abs_of_pos (by positivity)]
    have overflow := two_zpow_lt.mp (lower.trans_lt (magnitude ▸ fits))
    omega

/-- An unpacked double of bounded magnitude is packed to a finite double of the same number. -/
theorem packed_eq {value : UnpackedFloat} (h : IsDouble value)
    (fits : |unpackedNumber value| < 2 ^ (1024 : ℤ)) :
    (Float.ofModel (.pack value)).isFinite = true ∧
      numberOfDouble (.ofModel (.pack value)) = unpackedNumber value := by
  have unpacked := unpack_pack h fits
  constructor
  · show (Float.Model.pack value).unpack.isFinite = true
    rw [unpacked]
    rcases h.cases with ⟨sign, rfl⟩ | ⟨sign, m, e, positive, -, rfl⟩ <;> rfl
  · rw [numberOfDouble_eq]
    exact congrArg unpackedNumber unpacked

/-- What is rounded and packed evaluates to a double. -/
theorem evaluates_pack {exact : ℚ} {value : UnpackedFloat} (h : Rounded exact value)
    (fits : |exact| ≤ 2 ^ (1023 : ℤ)) : Evaluates exact (.ofModel (.pack value)) := by
  have bounded : |unpackedNumber value| ≤ 2 ^ (1023 : ℤ) :=
    h.roundsTo.abs_le (by norm_num) (fits.trans (le_add_of_nonneg_right (by positivity)))
  obtain ⟨finite, number⟩ := packed_eq h.isDouble (bounded.trans_lt (two_zpow_lt.mpr (by norm_num)))
  exact ⟨finite, number.symm ▸ h.roundsTo⟩

variable (hx : x.isFinite = true)

include hx

theorem onGrid_numberOfDouble : OnGrid (-1074) (numberOfDouble x) := by
  rw [numberOfDouble_eq]
  exact (isDouble_unpack hx).rounded.roundsTo.onGrid

variable (hy : y.isFinite = true)

include hy

theorem rounded_sum : Rounded (numberOfDouble x + numberOfDouble y)
    (UnpackedFloat.add .binary64 x.toModel.unpack y.toModel.unpack) := by
  rw [numberOfDouble_eq, numberOfDouble_eq]
  exact rounded_add (isDouble_unpack hx) (isDouble_unpack hy)

theorem rounded_difference : Rounded (numberOfDouble x - numberOfDouble y)
    (UnpackedFloat.sub .binary64 x.toModel.unpack y.toModel.unpack) := by
  rw [numberOfDouble_eq, numberOfDouble_eq]
  exact rounded_sub (isDouble_unpack hx) (isDouble_unpack hy)

theorem rounded_product : Rounded (numberOfDouble x * numberOfDouble y)
    (UnpackedFloat.mul .binary64 x.toModel.unpack y.toModel.unpack) := by
  rw [numberOfDouble_eq, numberOfDouble_eq]
  exact rounded_mul (isDouble_unpack hx) (isDouble_unpack hy)

theorem evaluates_add (fits : |numberOfDouble x + numberOfDouble y| ≤ 2 ^ (1023 : ℤ)) :
    Evaluates (numberOfDouble x + numberOfDouble y) (x + y) :=
  evaluates_pack (rounded_sum hx hy) fits

theorem evaluates_sub (fits : |numberOfDouble x - numberOfDouble y| ≤ 2 ^ (1023 : ℤ)) :
    Evaluates (numberOfDouble x - numberOfDouble y) (x - y) :=
  evaluates_pack (rounded_difference hx hy) fits

theorem evaluates_mul (fits : |numberOfDouble x * numberOfDouble y| ≤ 2 ^ (1023 : ℤ)) :
    Evaluates (numberOfDouble x * numberOfDouble y) (x * y) :=
  evaluates_pack (rounded_product hx hy) fits

end Finite

/-- Every finite double is below infinity. -/
theorem lt_infinity {x : Float} (finite : x.isFinite = true) : x < Unbounded.infinity := by
  have unpacked_infinity : (Unbounded.infinity : Float).toModel.unpack = .infinity .positive := rfl
  refine decide_eq_true_iff.mpr ?_
  show (x.toModel.unpack.compare (Unbounded.infinity : Float).toModel.unpack == some .lt) = true
  rw [unpacked_infinity]
  have finite : x.toModel.unpack.isFinite = true := finite
  cases unpacked : x.toModel.unpack with
  | zero => rfl
  | finite sign => cases sign <;> rfl
  | _ => rw [unpacked] at finite; cases finite

/-- A double that stands for a number from zero on is not below zero. -/
theorem zero_le_of_number {x : Float} (finite : x.isFinite = true) (nonneg : 0 ≤ numberOfDouble x) :
    0 ≤ x := by
  have unpacked_zero : (0 : Float).toModel.unpack = .zero .positive := rfl
  rw [numberOfDouble_eq] at nonneg
  refine decide_eq_true_iff.mpr ?_
  show ((0 : Float).toModel.unpack.compare x.toModel.unpack).any (·.isLE) = true
  rw [unpacked_zero]
  rcases (isDouble_unpack finite).cases with ⟨sign, unpacked⟩ | ⟨sign, m, e, positive, -, unpacked⟩
  · rw [unpacked]
    rfl
  · rw [unpacked] at nonneg ⊢
    cases sign with
    | positive => rfl
    | negative =>
      have below : unpackedNumber (.finite .negative m e positive) < 0 := by
        have : (0 : ℚ) < m * 2 ^ e := by positivity
        simpa [unpackedNumber, Sign.apply] using this
      exact absurd nonneg (not_le.mpr below)

/-! ## Constants -/

theorem isFinite_zero : (0 : Float).isFinite = true := by decide +kernel

theorem isFinite_one : (1 : Float).isFinite = true := by decide +kernel

theorem isFinite_two : (2 : Float).isFinite = true := by decide +kernel

@[simp] theorem numberOfDouble_zero : numberOfDouble 0 = 0 := by
  have reads : Reading.ofDouble 0 = .finite false 0 (-1074) := by decide +kernel
  rw [numberOfDouble, reads]
  norm_num [Reading.number]

@[simp] theorem numberOfDouble_one : numberOfDouble 1 = 1 := by
  have reads : Reading.ofDouble 1 = .finite false (2 ^ 52) (-52) := by decide +kernel
  rw [numberOfDouble, reads]
  norm_num [Reading.number]

@[simp] theorem numberOfDouble_two : numberOfDouble 2 = 2 := by
  have reads : Reading.ofDouble 2 = .finite false (2 ^ 52) (-51) := by decide +kernel
  rw [numberOfDouble, reads]
  norm_num [Reading.number]

/-- A double that is moved up by some places keeps its digits, and so it is not rounded. -/
theorem RoundsTo.eq_two_pow_mul {value : UnpackedFloat} (h : IsDouble value) (places : ℕ) {rounded : ℚ}
    (roundsTo : RoundsTo (2 ^ places * unpackedNumber value) rounded) :
    rounded = 2 ^ places * unpackedNumber value := by
  obtain ⟨sign, significand, exponent, canonical, rfl⟩ := h
  have number : 2 ^ places * unpackedNumber (ofFields sign significand exponent)
      = (sign.apply significand : ℤ) * 2 ^ (exponent + places) := by
    rw [unpackedNumber_ofFields, zpow_add₀ two_ne_zero, zpow_natCast]
    ring
  have least := canonical.least
  refine roundsTo.eq (by omega : -1074 ≤ exponent + places) ⟨_, number⟩ ?_
  rw [number, abs_mul, abs_apply, abs_of_pos (by positivity), add_comm (exponent + places),
    zpow_add₀ two_ne_zero 53]
  gcongr
  exact_mod_cast canonical.digits

theorem RoundsTo.eq_two_mul {value : UnpackedFloat} (h : IsDouble value) {rounded : ℚ}
    (roundsTo : RoundsTo (2 * unpackedNumber value) rounded) : rounded = 2 * unpackedNumber value := by
  rw [← pow_one (2 : ℚ)] at roundsTo ⊢
  exact eq_two_pow_mul h 1 roundsTo

/-- A double is not rounded. -/
theorem RoundsTo.eq_self {value : UnpackedFloat} (h : IsDouble value) {rounded : ℚ}
    (roundsTo : RoundsTo (unpackedNumber value) rounded) : rounded = unpackedNumber value := by
  rw [← one_mul (unpackedNumber value), ← pow_zero (2 : ℚ)] at roundsTo ⊢
  exact eq_two_pow_mul h 0 roundsTo

/-- Doubling loses nothing. -/
theorem two_mul_eq {x : Float} (finite : x.isFinite = true)
    (fits : |2 * numberOfDouble x| ≤ 2 ^ (1023 : ℤ)) :
    (2 * x).isFinite = true ∧ numberOfDouble (2 * x) = 2 * numberOfDouble x := by
  have evaluates := evaluates_mul isFinite_two finite (by rwa [numberOfDouble_two])
  rw [numberOfDouble_two] at evaluates
  refine ⟨evaluates.finite, ?_⟩
  rw [numberOfDouble_eq x] at evaluates ⊢
  exact evaluates.roundsTo.eq_two_mul (isDouble_unpack finite)

end KMeansSeeding
