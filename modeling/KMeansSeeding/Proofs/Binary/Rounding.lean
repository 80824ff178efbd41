import KMeansSeeding.Proofs.Binary.Grids
import KMeansSeeding.Proofs.Binary.Readings

/-!
# Unpacked arithmetic rounds

Unpacked floats are rounded by shifting their significand to the right, with two bits for what falls
out of it. `Shifted` says what those bits know, and from it the shifted significand is within half of
a last place. A second shift takes the carry that rounding up may have caused. So the result of every
operation on unpacked doubles is the exact result, rounded (`Rounded`), whatever its exponent.
-/

namespace KMeansSeeding

open Float.Model Float.Model.UnpackedFloat

/-! ## Shifting significands -/

/-- What two bits know of the part `dropped` that was shifted out by some places: whether it reaches
half of a last place, and whether there is more to it. -/
def Residue (places dropped : ℕ) : (round sticky : Bool) → Prop
  | false, false => dropped = 0
  | false, true => 0 < dropped ∧ 2 * dropped < 2 ^ places
  | true, false => 2 * dropped = 2 ^ places
  | true, true => 2 ^ places < 2 * dropped ∧ dropped < 2 ^ places

/-- `extended` is `significand`, shifted to the right. -/
structure Shifted (significand places : ℕ) (extended : ExtendedMantissa) : Prop where
  kept : extended.mantissa = significand / 2 ^ places
  residue : Residue places (significand % 2 ^ places) extended.roundBit extended.stickyBit

namespace Shifted

variable {significand places : ℕ} {extended : ExtendedMantissa}

theorem step (h : Shifted significand places extended) :
    Shifted significand (places + 1) extended.shiftRightOne := by
  obtain ⟨kept, residue⟩ := h
  have dropped : significand % 2 ^ (places + 1)
      = significand % 2 ^ places + 2 ^ places * (extended.mantissa % 2) := by
    rw [kept, Nat.mod_pow_succ]
  have bound : significand % 2 ^ places < 2 ^ places := Nat.mod_lt _ (Nat.two_pow_pos _)
  refine ⟨?_, ?_⟩
  · show extended.mantissa / 2 = _
    rw [kept, Nat.div_div_eq_div_mul, ← pow_succ]
  · show Residue _ _ (extended.mantissa % 2 != 0) (extended.roundBit || extended.stickyBit)
    rw [dropped]
    obtain ⟨mantissa, round, sticky⟩ := extended
    dsimp only at residue ⊢
    rcases Nat.mod_two_eq_zero_or_one mantissa with even | odd
    · rw [even]
      cases round <;> cases sticky <;> simp [Residue] at residue ⊢ <;> omega
    · rw [odd]
      cases round <;> cases sticky <;> simp [Residue] at residue ⊢ <;> omega

theorem shiftRight (significand places : ℕ) :
    Shifted significand places
      (ExtendedMantissa.ofMantissaAndAccuracy significand .exact >>> places) := by
  induction places with
  | zero => exact ⟨(Nat.div_one _).symm, Nat.mod_one _⟩
  | succ places ih => exact ih.step

variable (h : Shifted significand places extended)

include h

/-- A significand is rounded down only if at most half of a last place was dropped, and up only if at
least half was. -/
theorem rounded :
    (extended.roundedMantissa = significand / 2 ^ places ∧
      2 * (significand % 2 ^ places) ≤ 2 ^ places) ∨
    (extended.roundedMantissa = significand / 2 ^ places + 1 ∧
      2 ^ places ≤ 2 * (significand % 2 ^ places)) := by
  obtain ⟨kept, residue⟩ := h
  rw [← kept]
  clear kept
  obtain ⟨mantissa, round, sticky⟩ := extended
  unfold Residue at residue
  generalize significand % 2 ^ places = dropped at residue ⊢
  generalize 2 ^ places = width at residue ⊢
  cases round <;> cases sticky <;> dsimp only at residue ⊢
  · exact .inl ⟨rfl, by omega⟩
  · exact .inl ⟨rfl, by omega⟩
  · -- a half goes to the even neighbour
    have even : ExtendedMantissa.roundedMantissa ⟨mantissa, true, false⟩
        = mantissa + mantissa % 2 := rfl
    rw [even]
    omega
  · exact .inr ⟨rfl, by omega⟩

theorem near : 2 * |(extended.roundedMantissa * 2 ^ places : ℤ) - significand| ≤ 2 ^ places := by
  have whole := Nat.div_add_mod significand (2 ^ places)
  have bound : significand % 2 ^ places < 2 ^ places := Nat.mod_lt _ (Nat.two_pow_pos _)
  have width : (2 : ℤ) ^ places = (2 ^ places : ℕ) := by push_cast; rfl
  rw [← abs_two, ← abs_mul, abs_le, abs_two, width]
  rcases h.rounded with ⟨rounded, half⟩ | ⟨rounded, half⟩
  · rw [rounded, ← Nat.cast_mul, Nat.mul_comm]
    omega
  · rw [rounded, ← Nat.cast_mul, Nat.add_mul, Nat.one_mul, Nat.mul_comm]
    omega

theorem roundedMantissa_le {digits : ℕ} (upper : significand < 2 ^ (digits + places)) :
    extended.roundedMantissa ≤ 2 ^ digits := by
  have : significand / 2 ^ places < 2 ^ digits :=
    Nat.div_lt_of_lt_mul (by rwa [← pow_add, Nat.add_comm])
  rcases h.rounded with ⟨rounded, -⟩ | ⟨rounded, -⟩ <;> omega

theorem le_roundedMantissa {digits : ℕ} (lower : 2 ^ (digits + places) ≤ significand) :
    2 ^ digits ≤ extended.roundedMantissa := by
  have : 2 ^ digits ≤ significand / 2 ^ places :=
    (Nat.le_div_iff_mul_le (Nat.two_pow_pos _)).mpr (by rwa [← pow_add])
  rcases h.rounded with ⟨rounded, -⟩ | ⟨rounded, -⟩ <;> omega

/-- A significand shifted to the right unit is rounded there. -/
theorem roundsAt {exponent unit : ℤ} (least : -1074 ≤ unit) (shift : exponent + places = unit)
    (upper : significand < 2 ^ (53 + places))
    (lower : unit = -1074 ∨ 2 ^ (52 + places) ≤ significand) :
    RoundsAt unit (significand * 2 ^ exponent) (extended.roundedMantissa * 2 ^ unit) := by
  subst shift
  have positive : (0 : ℚ) < 2 ^ exponent := by positivity
  have magnitude : |(significand * 2 ^ exponent : ℚ)| = significand * 2 ^ exponent :=
    abs_of_nonneg (by positivity)
  have power (digits : ℕ) : (2 : ℚ) ^ (exponent + places + digits)
      = ((2 ^ (digits + places) : ℕ) : ℚ) * 2 ^ exponent := by
    rw [zpow_add₀ two_ne_zero, zpow_add₀ two_ne_zero, zpow_natCast, zpow_natCast]
    push_cast
    ring
  refine ⟨least, ?_, ?_, ⟨extended.roundedMantissa, by simp⟩, ?_⟩
  · rw [magnitude, show (53 : ℤ) = (53 : ℕ) from rfl, power]
    gcongr
  · rw [magnitude, show (52 : ℤ) = (52 : ℕ) from rfl, power]
    refine lower.imp_right fun lower => ?_
    gcongr
  · have near : 2 * |(extended.roundedMantissa * 2 ^ places - significand : ℚ)| ≤ 2 ^ places := by
      exact_mod_cast h.near
    have apart : (extended.roundedMantissa * 2 ^ (exponent + places) - significand * 2 ^ exponent : ℚ)
        = (extended.roundedMantissa * 2 ^ places - significand) * 2 ^ exponent := by
      rw [zpow_add₀ two_ne_zero, zpow_natCast]
      ring
    have half := two_zpow_half (exponent + places)
    rw [zpow_add₀ two_ne_zero, zpow_natCast, mul_comm] at half
    rw [apart, abs_mul, abs_of_pos positive]
    have scaled := mul_le_mul_of_nonneg_right near positive.le
    linarith

end Shifted

/-! ## Unpacked doubles -/

/-- The number an unpacked float stands for; zero for infinities and NaN. -/
def unpackedNumber : UnpackedFloat → ℚ
  | .finite sign significand exponent _ => (sign.apply significand : ℤ) * 2 ^ exponent
  | .zero _ | .infinity _ | .notANumber => 0

/-- The unpacked float of some fields. -/
def ofFields (sign : Sign) (significand : ℕ) (exponent : ℤ) : UnpackedFloat :=
  if zero : significand = 0 then .zero sign
  else .finite sign significand exponent (Nat.pos_of_ne_zero zero)

/-- An unpacked float that is a finite double, but for a bound on its exponent. -/
def IsDouble (value : UnpackedFloat) : Prop :=
  ∃ sign significand exponent, Canonical significand exponent ∧
    value = ofFields sign significand exponent

/-- `value` is the number `exact`, rounded to double precision. -/
structure Rounded (exact : ℚ) (value : UnpackedFloat) : Prop where
  isDouble : IsDouble value
  roundsTo : RoundsTo exact (unpackedNumber value)

section Signs

theorem apply_eq_mul (sign : Sign) (n : ℤ) :
    ((sign.apply n : ℤ) : ℚ) = (sign.apply 1 : ℤ) * n := by
  cases sign <;> simp [Sign.apply]

theorem apply_neg (sign : Sign) (n : ℤ) : (-sign).apply n = -sign.apply n := by
  cases sign
  · exact (neg_neg n).symm
  · rfl

theorem apply_mul (s t : Sign) (m n : ℤ) : (s * t).apply (m * n) = s.apply m * t.apply n := by
  cases s <;> cases t
  · exact (neg_mul_neg m n).symm
  · exact (neg_mul m n).symm
  · exact (mul_neg m n).symm
  · rfl

theorem abs_apply (sign : Sign) (n : ℕ) : |((sign.apply n : ℤ) : ℚ)| = n := by
  cases sign <;> simp [Sign.apply]

theorem RoundsTo.signed {exact rounded : ℚ} (h : RoundsTo exact rounded) (sign : Sign) :
    RoundsTo ((sign.apply 1 : ℤ) * exact) ((sign.apply 1 : ℤ) * rounded) := by
  cases sign
  · simpa [Sign.apply] using h.neg
  · simpa [Sign.apply] using h

end Signs

theorem unpackedNumber_ofFields (sign : Sign) (significand : ℕ) (exponent : ℤ) :
    unpackedNumber (ofFields sign significand exponent)
      = (sign.apply significand : ℤ) * 2 ^ exponent := by
  unfold ofFields
  split_ifs with zero
  · cases sign <;> simp [unpackedNumber, zero, Sign.apply]
  · rfl

theorem isDouble_zero (sign : Sign) : IsDouble (.zero sign) :=
  ⟨sign, 0, -1074, ⟨by norm_num, le_rfl, .inl rfl⟩, rfl⟩

theorem IsDouble.cases {value : UnpackedFloat} (h : IsDouble value) :
    (∃ sign, value = .zero sign) ∨
      ∃ sign significand exponent, ∃ positive : 0 < significand, Canonical significand exponent ∧
        value = .finite sign significand exponent positive := by
  obtain ⟨sign, significand, exponent, canonical, rfl⟩ := h
  unfold ofFields
  split_ifs with zero
  · exact .inl ⟨sign, rfl⟩
  · exact .inr ⟨sign, significand, exponent, Nat.pos_of_ne_zero zero, canonical, rfl⟩

theorem Canonical.roundsTo {significand : ℕ} {exponent : ℤ} (h : Canonical significand exponent) :
    RoundsTo (significand * 2 ^ exponent) (significand * 2 ^ exponent) := by
  have magnitude : |(significand * 2 ^ exponent : ℚ)| = significand * 2 ^ exponent :=
    abs_of_nonneg (by positivity)
  refine ⟨exponent, h.least, ?_, ?_, ⟨significand, by simp⟩, by rw [sub_self, abs_zero]; positivity⟩
  · rw [magnitude, add_comm, zpow_add₀ two_ne_zero]
    gcongr
    exact_mod_cast h.digits
  · rw [magnitude, add_comm, zpow_add₀ two_ne_zero]
    refine h.leading.imp_right fun leading => ?_
    gcongr
    exact_mod_cast leading

/-- A double is its own rounding. -/
theorem IsDouble.rounded {value : UnpackedFloat} (h : IsDouble value) :
    Rounded (unpackedNumber value) value := by
  refine ⟨h, ?_⟩
  obtain ⟨sign, significand, exponent, canonical, rfl⟩ := h
  rw [unpackedNumber_ofFields, apply_eq_mul, mul_assoc]
  exact_mod_cast canonical.roundsTo.signed sign

/-! ## Rounding to a double -/

/-- The unit that double precision has for a number. -/
def unitOf (significand : ℕ) (exponent : ℤ) : ℤ :=
  Format.binary64.targetExponent (totalExponent significand exponent)

theorem unitOf_eq (significand : ℕ) (exponent : ℤ) :
    unitOf significand exponent = max (significand.log2 + exponent - 52) (-1074) := by
  show max ((significand.log2 : ℤ) + 1 + exponent - 53) (3 - 2 ^ 10 - 53) = _
  congr 1
  omega

/-- Shifting to the unit leaves at most 53 digits, and 53 if it is not the least unit. -/
theorem digits_of_unitOf {significand places : ℕ} {exponent unit : ℤ} (positive : 0 < significand)
    (unit_eq : unitOf significand exponent = unit) (shift : exponent + places = unit) :
    significand < 2 ^ (53 + places) ∧ (unit = -1074 ∨ 2 ^ (52 + places) ≤ significand) := by
  rw [unitOf_eq] at unit_eq
  refine ⟨Nat.lt_log2_self.trans_le (Nat.pow_le_pow_right two_pos (by omega)), ?_⟩
  by_cases subnormal : unit = -1074
  · exact .inl subnormal
  · right
    exact (Nat.pow_le_pow_right two_pos (by omega)).trans (Nat.log2_self_le positive.ne')

/-- The second shift only moves the one number of 54 digits that rounding up can lead to. -/
private theorem shift_carry {rounded : ℕ} {unit : ℤ} (le : rounded ≤ 2 ^ 53) (least : -1074 ≤ unit)
    (leading : unit = -1074 ∨ 2 ^ 52 ≤ rounded) :
    ∃ significand exponent, Canonical significand exponent ∧
      (significand : ℚ) * 2 ^ exponent = rounded * 2 ^ unit ∧
      (shiftToTargetExponent .binary64 rounded unit .exact).1.mantissa = significand ∧
      (shiftToTargetExponent .binary64 rounded unit .exact).2 = exponent := by
  have target : shiftToTargetExponent .binary64 rounded unit .exact
      = shiftToExponent rounded unit .exact (unitOf rounded unit) := rfl
  rw [target, unitOf_eq, shiftToExponent]
  dsimp only
  rw [(Shifted.shiftRight _ _).kept]
  rcases Nat.lt_or_eq_of_le le with lt | rfl
  · have digits : rounded.log2 ≤ 52 := by
      by_cases zero : rounded = 0
      · subst zero; decide
      · have := (Nat.log2_lt zero).mpr lt
        omega
    have stays : (max ((rounded.log2 : ℤ) + unit - 52) (-1074) - unit).toNat = 0 := by omega
    rw [stays]
    exact ⟨rounded, unit, ⟨lt, least, leading⟩, rfl, by simp, by simp⟩
  · have digits : Nat.log2 (2 ^ 53) = 53 := Nat.log2_two_pow
    have carries : (max ((Nat.log2 (2 ^ 53) : ℤ) + unit - 52) (-1074) - unit).toNat = 1 := by omega
    rw [carries]
    refine ⟨2 ^ 52, unit + 1, ⟨by norm_num, by omega, .inr le_rfl⟩, ?_, by norm_num, by simp⟩
    rw [two_zpow_add_one]
    push_cast
    ring

/-- A number with at least as many digits as its unit leaves is rounded. -/
theorem rounded_roundWithAccuracy (sign : Sign) {significand : ℕ} {exponent : ℤ}
    (positive : 0 < significand) (longer : exponent ≤ unitOf significand exponent) :
    Rounded ((sign.apply significand : ℤ) * 2 ^ exponent)
      (roundWithAccuracy .binary64 sign significand exponent .exact) := by
  obtain ⟨places, shift⟩ := Int.le.dest longer
  generalize unit_eq : unitOf significand exponent = unit at longer shift
  have least : -1074 ≤ unit := by rw [← unit_eq, unitOf_eq]; omega
  obtain ⟨upper, lower⟩ := digits_of_unitOf positive unit_eq shift
  have shifted := Shifted.shiftRight significand places
  have first : shiftToTargetExponent .binary64 significand exponent .exact
      = (ExtendedMantissa.ofMantissaAndAccuracy significand .exact >>> places, unit) := by
    show shiftToExponent significand exponent .exact (unitOf significand exponent) = _
    rw [shiftToExponent, unit_eq, show (unit - exponent).toNat = places by omega, shift]
  obtain ⟨significand', exponent', canonical, same, mantissa_eq, exponent_eq⟩ :=
    shift_carry (shifted.roundedMantissa_le upper) least
      (lower.imp_right shifted.le_roundedMantissa)
  have roundsTo : RoundsTo (significand * 2 ^ exponent) (significand' * 2 ^ exponent') :=
    same ▸ ⟨unit, shifted.roundsAt least shift upper lower⟩
  have result : roundWithAccuracy .binary64 sign significand exponent .exact
      = ofFields sign significand' exponent' := by
    rw [roundWithAccuracy, first]
    dsimp only
    unfold ofFields
    simp only [mantissa_eq, exponent_eq]
  refine ⟨⟨sign, _, _, canonical, result⟩, ?_⟩
  rw [result, unpackedNumber_ofFields, apply_eq_mul, apply_eq_mul sign significand', mul_assoc,
    mul_assoc]
  exact_mod_cast roundsTo.signed sign

section Decreasing

variable {significand : ℕ}

theorem log2_shiftLeft (positive : 0 < significand) (places : ℕ) :
    (significand <<< places).log2 = significand.log2 + places := by
  rw [Nat.shiftLeft_eq, Nat.log2_eq_iff (by positivity), pow_add, Nat.add_right_comm, pow_add]
  exact ⟨Nat.mul_le_mul_right _ (Nat.log2_self_le positive.ne'),
    Nat.mul_lt_mul_of_pos_right Nat.lt_log2_self (Nat.two_pow_pos _)⟩

theorem decreaseExponent_number (sign : Sign) (exponent target : ℤ) :
    ((sign.apply (decreaseExponent significand exponent target).1 : ℤ) : ℚ)
        * 2 ^ (decreaseExponent significand exponent target).2
      = (sign.apply significand : ℤ) * 2 ^ exponent := by
  rw [decreaseExponent]
  dsimp only
  rw [Nat.shiftLeft_eq, zpow_sub₀ two_ne_zero, zpow_natCast, apply_eq_mul,
    apply_eq_mul sign significand]
  push_cast
  field_simp

/-- A number written with a smaller exponent. -/
theorem aligned (sign : Sign) {exponent target : ℤ} (le : target ≤ exponent) :
    ((sign.apply (decreaseExponent significand exponent target).1 : ℤ) : ℚ) * 2 ^ target
      = (sign.apply significand : ℤ) * 2 ^ exponent := by
  have reached : (decreaseExponent significand exponent target).2 = target := by
    show exponent - ((exponent - target).toNat : ℕ) = target
    omega
  rw [← decreaseExponent_number sign exponent target, reached]

theorem rounded_round (sign : Sign) (exponent : ℤ) (positive : 0 < significand) :
    Rounded ((sign.apply significand : ℤ) * 2 ^ exponent)
      (UnpackedFloat.round .binary64 sign significand exponent) := by
  rw [← decreaseExponent_number sign exponent (unitOf significand exponent)]
  refine rounded_roundWithAccuracy sign ?_ ?_
  · rw [decreaseExponent, Nat.shiftLeft_eq]
    positivity
  · simp only [decreaseExponent, unitOf_eq, log2_shiftLeft positive]
    omega

end Decreasing

theorem rounded_normalize (mantissa exponent : ℤ) (zeroSign : Sign) :
    Rounded (mantissa * 2 ^ exponent)
      (UnpackedFloat.normalize .binary64 mantissa exponent zeroSign) := by
  unfold UnpackedFloat.normalize
  rcases lt_trichotomy mantissa 0 with negative | rfl | positive
  · rw [compare_lt_iff_lt.mpr negative]
    have rounded := rounded_round .negative exponent (show 0 < (-mantissa).toNat by omega)
    rwa [Sign.apply, Int.toNat_of_nonneg (by omega), neg_neg] at rounded
  · simpa [unpackedNumber] using (isDouble_zero zeroSign).rounded
  · rw [compare_gt_iff_gt.mpr positive]
    have rounded := rounded_round .positive exponent (show 0 < mantissa.toNat by omega)
    rwa [Sign.apply, Int.toNat_of_nonneg (by omega)] at rounded

/-! ## Sums, differences and products -/

section Operations

variable {x y : UnpackedFloat} (hx : IsDouble x) (hy : IsDouble y)

theorem isDouble_neg (hx : IsDouble x) : IsDouble x.neg := by
  obtain ⟨sign, significand, exponent, canonical, rfl⟩ := hx
  refine ⟨-sign, significand, exponent, canonical, ?_⟩
  unfold ofFields
  split_ifs <;> rfl

theorem unpackedNumber_neg (x : UnpackedFloat) : unpackedNumber x.neg = -unpackedNumber x := by
  cases x with
  | finite sign significand exponent positive =>
    rw [UnpackedFloat.neg, unpackedNumber, unpackedNumber, apply_neg, Int.cast_neg, neg_mul]
  | _ => exact neg_zero.symm

/-- A difference is the sum with the negated number. -/
theorem unpacked_sub (x y : UnpackedFloat) :
    UnpackedFloat.sub .binary64 x y = UnpackedFloat.add .binary64 x y.neg := by
  cases x with
  | finite s m e hm =>
    cases y with
    | finite t n k hn =>
      simp only [UnpackedFloat.sub, UnpackedFloat.add, UnpackedFloat.neg, apply_neg,
        ← Int.sub_eq_add_neg]
    | _ => rfl
  | _ => cases y <;> rfl

include hx hy

theorem rounded_add :
    Rounded (unpackedNumber x + unpackedNumber y) (UnpackedFloat.add .binary64 x y) := by
  have number_zero (sign : Sign) : unpackedNumber (.zero sign) = 0 := rfl
  rcases hx.cases with ⟨s, rfl⟩ | ⟨s, m, e, m_pos, hm, rfl⟩
  · rw [number_zero, zero_add]
    rcases hy.cases with ⟨t, rfl⟩ | ⟨t, n, k, n_pos, hn, rfl⟩
    · show Rounded 0 (if s == t then .zero s else .zero .positive)
      split_ifs <;> exact (isDouble_zero _).rounded
    · exact hy.rounded
  · rcases hy.cases with ⟨t, rfl⟩ | ⟨t, n, k, n_pos, hn, rfl⟩
    · rw [number_zero, add_zero]
      exact hx.rounded
    · have sum := rounded_normalize (s.apply (decreaseExponent m e (min e k)).1
        + t.apply (decreaseExponent n k (min e k)).1) (min e k) .positive
      rw [Int.cast_add, add_mul, aligned s (min_le_left e k), aligned t (min_le_right e k)] at sum
      exact sum

theorem rounded_sub :
    Rounded (unpackedNumber x - unpackedNumber y) (UnpackedFloat.sub .binary64 x y) := by
  rw [unpacked_sub, sub_eq_add_neg, ← unpackedNumber_neg]
  exact rounded_add hx (isDouble_neg hy)

omit hx hy in
/-- The product of two significands is no shorter than its unit allows. -/
theorem Canonical.le_unitOf {m n : ℕ} {e k : ℤ} (hm : Canonical m e) (hn : Canonical n k)
    (m_pos : 0 < m) (n_pos : 0 < n) : e + k ≤ unitOf (m * n) (e + k) := by
  rw [unitOf_eq]
  by_cases subnormal : e = -1074 ∧ k = -1074
  · omega
  · have product : 2 ^ 52 ≤ m * n := by
      rcases hm.leading with least | leading
      · have leading := hn.leading.resolve_left fun h => subnormal ⟨least, h⟩
        exact leading.trans (Nat.le_mul_of_pos_left n m_pos)
      · exact leading.trans (Nat.le_mul_of_pos_right m n_pos)
    have digits : 52 ≤ (m * n).log2 := (Nat.le_log2 (by positivity)).mpr product
    omega

theorem rounded_mul :
    Rounded (unpackedNumber x * unpackedNumber y) (UnpackedFloat.mul .binary64 x y) := by
  have number_zero (sign : Sign) : unpackedNumber (.zero sign) = 0 := rfl
  rcases hx.cases with ⟨s, rfl⟩ | ⟨s, m, e, m_pos, hm, rfl⟩
  · rw [number_zero, zero_mul]
    rcases hy.cases with ⟨t, rfl⟩ | ⟨t, n, k, n_pos, hn, rfl⟩ <;> exact (isDouble_zero _).rounded
  · rcases hy.cases with ⟨t, rfl⟩ | ⟨t, n, k, n_pos, hn, rfl⟩
    · rw [number_zero, mul_zero]
      exact (isDouble_zero _).rounded
    · have product := rounded_roundWithAccuracy (s * t) (Nat.mul_pos m_pos n_pos)
        (hm.le_unitOf hn m_pos n_pos)
      have number : (((s * t).apply (m * n : ℕ) : ℤ) : ℚ) * 2 ^ (e + k)
          = unpackedNumber (.finite s m e m_pos) * unpackedNumber (.finite t n k n_pos) := by
        rw [unpackedNumber, unpackedNumber, zpow_add₀ two_ne_zero, Nat.cast_mul, apply_mul]
        push_cast
        ring
      exact number ▸ product

end Operations

end KMeansSeeding
