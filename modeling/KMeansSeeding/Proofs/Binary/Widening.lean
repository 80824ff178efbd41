import KMeansSeeding.Proofs.Binary.Arithmetic

/-!
# Widening loses nothing

A single is written with 24 digits, and a double has room for 53 and for all exponents of singles. So
the nearest double to a single is the same number (`widenSingle_eq`), and the product of two widened
singles, with 48 digits, is exact (`widened_mul`). What sums of such products lose, they lose in the
additions.
-/

namespace KMeansSeeding

open Float.Model Float.Model.UnpackedFloat

variable {negative : Bool} {significand : ℕ} {exponent : ℤ}

/-- The bits of a normal double read as its fields. -/
theorem decode_double {field fraction : ℕ} (lower : 0 < field) (upper : field < 2047)
    (within : fraction < 2 ^ 52) :
    Layout.double.decode (Layout.double.signBit negative + (field <<< 52 + fraction))
      = .finite negative (fraction + 2 ^ 52) (-1074 + (field - 1 : ℕ)) := by
  have sign : Layout.double.signBit negative = if negative then 2 ^ 63 else 0 := rfl
  generalize bits_eq : Layout.double.signBit negative + (field <<< 52 + fraction) = bits
  rw [sign, Nat.shiftLeft_eq] at bits_eq
  have fraction_eq : bits % Nat.pow 2 Layout.double.fractionBits = fraction := by
    show bits % 2 ^ 52 = fraction
    cases negative <;> simp at bits_eq <;> omega
  have field_eq : (bits >>> Layout.double.fractionBits) % Nat.pow 2 Layout.double.exponentBits
      = field := by
    show (bits >>> 52) % 2 ^ 11 = field
    rw [Nat.shiftRight_eq_div_pow]
    cases negative <;> simp at bits_eq <;> omega
  have negative_eq : ((bits >>> (Layout.double.fractionBits + Layout.double.exponentBits)) % 2 == 1)
      = negative := by
    show ((bits >>> 63) % 2 == 1) = negative
    rw [Nat.shiftRight_eq_div_pow]
    cases negative <;> simp at bits_eq ⊢ <;> omega
  have not_top : field ≠ Layout.double.topField := by
    show field ≠ 2047
    omega
  rw [Layout.decode, fraction_eq, field_eq, negative_eq]
  rw [if_neg not_top, if_neg lower.ne']
  rfl

/-- A number with the digits and the exponents of singles has a double of the same value. -/
theorem nearestMagnitude_eq (positive : 0 < significand) (digits : significand < 2 ^ 24)
    (least : -149 ≤ exponent) (greatest : exponent ≤ 104) :
    ∃ field fraction : ℕ, 0 < field ∧ field < 2047 ∧ fraction < 2 ^ 52 ∧
      Layout.double.nearestMagnitude significand exponent = field <<< 52 + fraction ∧
      ((fraction + 2 ^ 52 : ℕ) : ℚ) * 2 ^ (-1074 + ((field - 1 : ℕ) : ℤ))
        = significand * 2 ^ exponent := by
  have short : significand.log2 < 24 := (Nat.log2_lt positive.ne').mpr digits
  have unit : max (exponent + (significand.log2 : ℤ) - (Layout.double.fractionBits : ℤ))
      Layout.double.leastExponent = exponent + significand.log2 - 52 := by
    show max (exponent + (significand.log2 : ℤ) - 52) (-1074) = _
    omega
  obtain ⟨places, places_eq⟩ : ∃ places, significand.log2 + places = 52 :=
    ⟨52 - significand.log2, by omega⟩
  have shift : (exponent - (exponent + (significand.log2 : ℤ) - 52)).toNat = places := by omega
  have length : (significand <<< places).log2 = 52 := by rw [log2_shiftLeft positive, places_eq]
  have nonzero : significand <<< places ≠ 0 := by
    rw [Nat.shiftLeft_eq]
    positivity
  obtain ⟨lower, upper⟩ := (Nat.log2_eq_iff nonzero).mp length
  refine ⟨(exponent + significand.log2 - 52 + 1074).toNat + 1, significand <<< places - 2 ^ 52,
    by omega, by omega, by omega, ?_, ?_⟩
  · have leading : ¬ significand <<< places < Nat.pow 2 Layout.double.fractionBits := not_lt.mpr lower
    rw [Layout.nearestMagnitude, if_neg positive.ne']
    dsimp only
    rw [unit, shift, if_pos (show exponent + significand.log2 - 52 ≤ exponent by omega),
      if_neg leading]
    refine Nat.min_eq_left ?_
    show ((exponent + significand.log2 - 52 - -1074).toNat + 1) <<< 52
      + (significand <<< places - 2 ^ 52) ≤ 2047 <<< 52
    simp only [Nat.shiftLeft_eq _ 52]
    omega
  · have exponent_eq : (-1074 + (((exponent + significand.log2 - 52 + 1074).toNat + 1 - 1 : ℕ) : ℤ))
        = exponent - places := by
      omega
    rw [exponent_eq, Nat.sub_add_cancel lower, Nat.shiftLeft_eq, zpow_sub₀ two_ne_zero,
      zpow_natCast]
    push_cast
    field_simp

/-- The nearest double to a single reads as the same number. -/
theorem decode_nearest (digits : significand < 2 ^ 24) (least : -149 ≤ exponent)
    (greatest : exponent ≤ 104) :
    Layout.double.nearest (.finite negative significand exponent) < 2 ^ 64 ∧
    ∃ significand' exponent',
      Layout.double.decode (Layout.double.nearest (.finite negative significand exponent))
        = .finite negative significand' exponent' ∧
      (significand' : ℚ) * 2 ^ exponent' = significand * 2 ^ exponent := by
  rcases Nat.eq_zero_or_pos significand with rfl | positive
  · have zero : Layout.double.nearest (.finite negative 0 exponent)
        = Layout.double.signBit negative := rfl
    rw [zero]
    exact ⟨by cases negative <;> decide, 0, -1074, by cases negative <;> decide, by simp⟩
  · obtain ⟨field, fraction, lower, upper, within, bits_eq, number_eq⟩ :=
      nearestMagnitude_eq positive digits least greatest
    rw [Layout.nearest, bits_eq]
    refine ⟨?_, _, _, decode_double lower upper within, number_eq⟩
    have sign : Layout.double.signBit negative ≤ 2 ^ 63 := by cases negative <;> decide
    rw [Nat.shiftLeft_eq]
    omega

/-- A double reads as the bits it is made of, if these are those of a number. -/
theorem ofDouble_ofBits {bits : UInt64}
    (reads : Layout.double.decode bits.toNat = .finite negative significand exponent) :
    Reading.ofDouble (Float.ofBits bits) = .finite negative significand exponent := by
  have holds := holds_of_decode reads
  have unpacked : Layout.double.decode bits.toNat
      = .ofUnpacked .double (UnpackedFloat.unpack .binary64 bits.toBitVec) :=
    decode_eq_ofUnpacked .binary64 bits.toBitVec
  rw [reads] at unpacked
  rw [ofDouble_eq]
  show Reading.ofUnpacked _
    (Float.Model.pack (UnpackedFloat.unpack .binary64 bits.toBitVec)).unpack = _
  cases value : UnpackedFloat.unpack .binary64 bits.toBitVec with
  | zero sign =>
    rw [value] at unpacked
    rw [unpacked]
    exact congrArg _ unpack_packedZero
  | finite sign m e positive =>
    rw [value] at unpacked
    obtain ⟨-, rfl, rfl⟩ := Reading.finite.inj unpacked
    rw [unpack_pack_finite positive holds.canonical holds.greatest, unpacked]
  | _ => rw [value] at unpacked; cases unpacked

section Singles

variable {a b : Float32}

theorem single_of_isFinite (finite : a.isFinite = true) :
    ∃ negative significand exponent, Reading.ofSingle a = .finite negative significand exponent ∧
      significand < 2 ^ 24 ∧ -149 ≤ exponent ∧ exponent ≤ 104 := by
  obtain ⟨negative, significand, exponent, reads⟩ := isFinite_iff_ofSingle.mp finite
  obtain ⟨digits, least, -, greatest⟩ := holds_of_decode reads
  exact ⟨negative, significand, exponent, reads, digits, least, greatest⟩

/-- A widened single is the same number. -/
theorem widenSingle_eq (finite : a.isFinite = true) :
    (widenSingle a).isFinite = true ∧ numberOfDouble (widenSingle a) = numberOfSingle a := by
  obtain ⟨negative, significand, exponent, reads, digits, least, greatest⟩ :=
    single_of_isFinite finite
  obtain ⟨within, significand', exponent', decoded, same⟩ :=
    @decode_nearest negative _ _ digits least greatest
  have widened : Reading.ofDouble (widenSingle a) = .finite negative significand' exponent' := by
    rw [widenSingle, Reading.toDouble, reads]
    refine ofDouble_ofBits ?_
    rwa [UInt64.toNat_ofNat_of_lt' within]
  refine ⟨isFinite_iff_ofDouble.mpr ⟨_, _, _, widened⟩, ?_⟩
  rw [numberOfDouble, widened, numberOfSingle, reads, Reading.number, Reading.number]
  cases negative
  · exact_mod_cast same
  · simp [same]

/-- A finite single has 24 digits on the grid of its exponent. -/
theorem digits_of_isFinite (finite : a.isFinite = true) :
    ∃ unit : ℤ, -149 ≤ unit ∧ unit ≤ 104 ∧ OnGrid unit (numberOfSingle a) ∧
      |numberOfSingle a| < 2 ^ (unit + 24) := by
  obtain ⟨negative, significand, exponent, reads, digits, least, greatest⟩ :=
    single_of_isFinite finite
  have number : numberOfSingle a
      = ((if negative then -significand else significand : ℤ) : ℚ) * 2 ^ exponent := by
    rw [numberOfSingle, reads, Reading.number]
  have magnitude : |((if negative then -significand else significand : ℤ) : ℚ)| = significand := by
    cases negative <;> simp
  refine ⟨exponent, least, greatest, ⟨_, number⟩, ?_⟩
  rw [number, abs_mul, magnitude, abs_of_pos (by positivity), add_comm, zpow_add₀ two_ne_zero]
  gcongr
  exact_mod_cast digits

variable (ha : a.isFinite = true) (hb : b.isFinite = true)

include ha hb

theorem abs_mul_le : |numberOfSingle a * numberOfSingle b| ≤ 2 ^ (256 : ℤ) := by
  obtain ⟨u, -, hu, -, au⟩ := digits_of_isFinite ha
  obtain ⟨v, -, hv, -, bv⟩ := digits_of_isFinite hb
  calc |numberOfSingle a * numberOfSingle b|
      = |numberOfSingle a| * |numberOfSingle b| := abs_mul _ _
    _ ≤ 2 ^ (u + 24) * 2 ^ (v + 24) := by gcongr
    _ = 2 ^ ((u + 24) + (v + 24)) := (zpow_add₀ two_ne_zero _ _).symm
    _ ≤ 2 ^ (256 : ℤ) := two_zpow_le.mpr (by omega)

/-- The product of two widened singles is exact. -/
theorem widened_mul :
    (widenSingle a * widenSingle b).isFinite = true ∧
      numberOfDouble (widenSingle a * widenSingle b) = numberOfSingle a * numberOfSingle b := by
  obtain ⟨finite_a, number_a⟩ := widenSingle_eq ha
  obtain ⟨finite_b, number_b⟩ := widenSingle_eq hb
  have evaluates := evaluates_mul finite_a finite_b (by
    rw [number_a, number_b]
    exact (abs_mul_le ha hb).trans (two_zpow_le.mpr (by norm_num)))
  rw [number_a, number_b] at evaluates
  obtain ⟨u, hu, -, grid_a, au⟩ := digits_of_isFinite ha
  obtain ⟨v, hv, -, grid_b, bv⟩ := digits_of_isFinite hb
  refine ⟨evaluates.finite, evaluates.roundsTo.eq (by omega) (grid_a.mul grid_b) ?_⟩
  calc |numberOfSingle a * numberOfSingle b|
      = |numberOfSingle a| * |numberOfSingle b| := abs_mul _ _
    _ ≤ 2 ^ (u + 24) * 2 ^ (v + 24) := by gcongr
    _ = 2 ^ (u + v + 48) := by
      rw [← zpow_add₀ two_ne_zero]
      congr 1
      ring
    _ < 2 ^ (u + v + 53) := two_zpow_lt.mpr (by omega)

end Singles

end KMeansSeeding
