import KMeansSeeding.Proofs.Binary.Naturals
import KMeansSeeding.Proofs.Decimal
import KMeansSeeding.Proofs.Json.Numbers

/-!
# The texts of floats are numbers

The documents write a float with a point or an exponent in any case. So its text consists of figures
that read as those of a float (`exists_figures`), and not as an integer. What they read as need not
be the float that was written, since reading rounds twice; but a float below `2 ^ 200` reads as some
float and is not refused for its size (`isSome_value`).
-/

namespace KMeansSeeding.Json

open Nat (ofDigitChars)

/-! ## Laying out digits -/

/-- Digits of a number that is not zero, or the digit zero alone. -/
structure Significant (digits : List Char) : Prop where
  all_digits : AllDigits digits
  ne_nil : digits ≠ []
  leading : digits.head? = some '0' → digits = ['0']

theorem significant_digitsOf (value : ℕ) : Significant (Decimal.digitsOf value) :=
  ⟨allDigits_digitsOf value, Nat.toDigits_ne_nil, head_digitsOf value⟩

theorem head_digitsOf_ne_zero {value : ℕ} (positive : 0 < value) :
    (Decimal.digitsOf value).head? ≠ some '0' := by
  intro zero
  have value_eq := ofDigitChars_digitsOf value
  rw [head_digitsOf value zero] at value_eq
  exact positive.ne value_eq

theorem allDigits_zeros (count : ℕ) : AllDigits (List.replicate count '0') := by
  intro c member
  obtain rfl := List.eq_of_mem_replicate member
  decide

theorem AllDigits.append {digits others : List Char} (h : AllDigits digits)
    (others_digits : AllDigits others) : AllDigits (digits ++ others) := by
  intro c member
  rcases List.mem_append.mp member with member | member
  · exact h c member
  · exact others_digits c member

theorem AllDigits.of_subset {digits others : List Char} (h : AllDigits digits)
    (subset : others ⊆ digits) : AllDigits others :=
  fun c member => h c (subset member)

/-- A number is below the power of ten with as many zeros as it has digits. -/
theorem ofDigitChars_lt {digits : List Char} (h : AllDigits digits) (value : ℕ) :
    ofDigitChars 10 digits value < (value + 1) * 10 ^ digits.length := by
  induction digits generalizing value with
  | nil => simp
  | cons c digits ih =>
    have digit : c.toNat - '0'.toNat ≤ 9 := by
      have bounds := Char.isDigit_iff_toNat.mp (h c List.mem_cons_self)
      have zero : '0'.toNat = 48 := rfl
      have nine : '9'.toNat = 57 := rfl
      omega
    rw [Nat.ofDigitChars_cons, List.length_cons, pow_succ']
    calc ofDigitChars 10 digits (10 * value + (c.toNat - '0'.toNat))
        < (10 * value + (c.toNat - '0'.toNat) + 1) * 10 ^ digits.length :=
          ih (h.of_subset (List.subset_cons_self _ _)) _
      _ ≤ ((value + 1) * 10) * 10 ^ digits.length := by gcongr; omega
      _ = (value + 1) * (10 * 10 ^ digits.length) := by ring

/-- Nineteen digits make a significand. -/
theorem ofDigitChars_le {digits : List Char} (h : AllDigits digits) (short : digits.length ≤ 19) :
    ofDigitChars 10 digits 0 ≤ Numeral.significandLimit := by
  have below := ofDigitChars_lt h 0
  have power : 10 ^ digits.length ≤ 10 ^ 19 := Nat.pow_le_pow_right (by decide) short
  have limit : 10 ^ 19 ≤ Numeral.significandLimit := by decide
  omega

namespace Figures

/-- The figures of `digits` with the point after the first `whole` of them. -/
def placed (digits : List Char) (whole : ℤ) : Figures :=
  if whole ≤ 0 then ⟨['0'], List.replicate (-whole).toNat '0' ++ digits, none⟩
  else if digits.length ≤ whole.toNat then
    ⟨digits ++ List.replicate (whole.toNat - digits.length) '0', ['0'], none⟩
  else ⟨digits.take whole.toNat, digits.drop whole.toNat, none⟩

/-- The figures of one digit, the others and an exponent. -/
def scaled (digits : List Char) (leading : ℤ) : Figures :=
  ⟨digits.take 1, digits.drop 1, some leading⟩

section Layouts

variable {style : NumberStyle} {digits : List Char} {whole leading : ℤ}

theorem text_placed (pointZero : style.pointZero = true) (nonempty : digits ≠ []) :
    (placed digits whole).text style = style.layOut digits whole := by
  unfold placed NumberStyle.layOut
  split_ifs with before behind
  · simp [text, nonempty]
  · simp [text, behind]
  · simp [text, behind]

theorem text_scaled : (scaled digits leading).text style = style.scientific digits leading := by
  simp [text, scaled, NumberStyle.scientific]

theorem exponent_placed : (placed digits whole).exponent = none := by
  unfold placed
  split_ifs <;> rfl

theorem sound_placed (h : Significant digits) (nonzero : digits.head? ≠ some '0' ∨ whole = 1)
    (short : whole ≤ 19) : (placed digits whole).Sound := by
  have exponent_le : ∀ exponent ∈ (placed digits whole).exponent,
      exponent.natAbs ≤ Numeral.exponentLimit := by
    rw [exponent_placed]
    nofun
  unfold placed at exponent_le ⊢
  split_ifs at exponent_le ⊢ with before behind
  · have zero : AllDigits ['0'] := allDigits_zeros 1
    refine ⟨zero, List.cons_ne_nil _ _, fun _ => rfl, Nat.zero_le _, ?_, exponent_le, .inl ?_⟩
    · exact (allDigits_zeros _).append h.all_digits
    · exact List.append_ne_nil_of_right_ne_nil _ h.ne_nil
  · have all := h.all_digits.append (allDigits_zeros (whole.toNat - digits.length))
    refine ⟨all, ?_, ?_, ?_, allDigits_zeros 1, exponent_le,
      .inl (List.cons_ne_nil _ _)⟩
    · exact List.append_ne_nil_of_left_ne_nil h.ne_nil _
    · -- a single zero is not followed by others
      intro zero
      rw [List.head?_append_of_ne_nil _ h.ne_nil] at zero
      obtain rfl := nonzero.resolve_left (not_not.mpr zero)
      rw [h.leading zero]
      rfl
    · refine ofDigitChars_le all ?_
      rw [List.length_append, List.length_replicate]
      omega
  · refine ⟨h.all_digits.of_subset (List.take_subset _ _), ?_, ?_, ?_,
      h.all_digits.of_subset (List.drop_subset _ _), exponent_le, .inl ?_⟩
    · simpa [h.ne_nil] using before
    · intro zero
      rw [List.head?_take, if_neg (by omega)] at zero
      rw [h.leading zero] at behind
      obtain rfl := nonzero.resolve_left (not_not.mpr zero)
      exact absurd (Nat.le_refl 1) behind
    · refine ofDigitChars_le (h.all_digits.of_subset (List.take_subset _ _)) ?_
      rw [List.length_take]
      omega
    · rw [Ne, List.drop_eq_nil_iff]
      exact behind

theorem sound_scaled (h : Significant digits) (small : leading.natAbs ≤ Numeral.exponentLimit) :
    (scaled digits leading).Sound := by
  obtain ⟨c, others, rfl⟩ := List.exists_cons_of_ne_nil h.ne_nil
  have one : AllDigits [c] := h.all_digits.of_subset (by simp)
  have short : [c].length ≤ 19 := Nat.le_add_left 1 18
  refine ⟨one, List.cons_ne_nil _ _, ?_, ofDigitChars_le one short, ?_, ?_, .inr rfl⟩
  · intro zero
    exact congrArg (fun c => [c]) (Option.some.inj zero)
  · exact h.all_digits.of_subset (List.subset_cons_self _ _)
  · rintro _ ⟨⟩
    exact small

end Layouts

end Figures

/-! ## Floats -/

/-- A style whose texts are JSON numbers with a point or an exponent. -/
structure Pointed (style : NumberStyle) : Prop where
  pointZero : style.pointZero = true
  /-- What has more digits before the point than a significand is written with an exponent. -/
  short : ∀ leading, style.isPositional leading = true → leading ≤ 18

theorem pointed_singleStyle : Pointed singleStyle := by
  refine ⟨rfl, fun leading positional => ?_⟩
  have bounds : -6 ≤ leading ∧ leading ≤ 12 := by
    simpa [NumberStyle.isPositional, singleStyle] using positional
  omega

theorem pointed_doubleStyle : Pointed doubleStyle := by
  refine ⟨rfl, fun leading positional => ?_⟩
  have bounds : -5 ≤ leading ∧ leading ≤ 15 := by
    simpa [NumberStyle.isPositional, doubleStyle] using positional
  omega

/-- The sign of a number that may be below zero. -/
def minus (negative : Bool) : List Char :=
  if negative then ['-'] else []

section Floats

variable {style : NumberStyle} {layout : Layout} {negative : Bool} {significand : ℕ} {exponent : ℤ}

/-- A float is written as a sign and figures. They have an exponent at most as large as the float. -/
theorem exists_figures (pointed : Pointed style) (layout : Layout) (negative : Bool)
    (least : -2000 ≤ exponent + (significand.log2 : ℤ))
    (greatest : exponent + (significand.log2 : ℤ) ≤ 2000) :
    ∃ figures : Figures, figures.Sound ∧
      figures.exponent.getD 0 ≤ max (exponent + (significand.log2 : ℤ) + 1) 0 ∧
      (style.ofReading layout (.finite negative significand exponent)).toList
        = minus negative ++ figures.text style := by
  have signed (magnitude : List Char) :
      (String.ofList (if negative then '-' :: magnitude else magnitude)).toList
        = minus negative ++ magnitude := by
    rw [String.toList_ofList, minus]
    cases negative <;> rfl
  rw [NumberStyle.ofReading, signed]
  split_ifs with zero
  · refine ⟨.placed ['0'] 1, ?_, ?_, ?_⟩
    · exact Figures.sound_placed (significant_digitsOf 0) (.inr rfl) (by decide)
    · rw [Figures.exponent_placed]
      exact le_max_right _ _
    · rw [Figures.text_placed pointed.pointZero (by decide)]
  · obtain ⟨positive, low, high⟩ := Decimal.shortest_spec layout style.tie
      (Nat.pos_of_ne_zero zero) least greatest
    generalize Decimal.shortest layout style.tie significand exponent = decimal
      at positive low high ⊢
    have significant := significant_digitsOf decimal.digits
    unfold NumberStyle.ofDecimal
    dsimp only
    split_ifs with positional
    · refine ⟨.placed (Decimal.digitsOf decimal.digits) (decimal.leading + 1), ?_, ?_, ?_⟩
      · have short := pointed.short _ positional
        exact Figures.sound_placed significant (.inl (head_digitsOf_ne_zero positive)) (by omega)
      · rw [Figures.exponent_placed]
        exact le_max_right _ _
      · rw [Figures.text_placed pointed.pointZero significant.ne_nil]
    · refine ⟨.scaled (Decimal.digitsOf decimal.digits) decimal.leading, ?_, high, ?_⟩
      · refine Figures.sound_scaled significant ?_
        have limit : Numeral.exponentLimit = 2147483647 := rfl
        omega
      · rw [Figures.text_scaled]

end Floats

/-! ## The size of what is read -/

namespace Numeral

/-- Divisions do not pass the largest float. -/
theorem isSome_scaleLoop_of_neg (steps : ℕ) (value : Float) {exponent : ℤ} (down : exponent < 0) :
    (scaleLoop steps value exponent).isSome = true := by
  induction steps generalizing value exponent with
  | zero => rfl
  | succ steps ih =>
    simp only [scaleLoop, if_neg (not_le.mpr down)]
    split_ifs with near zero
    · rfl
    · rfl
    · exact ih _ (by omega)

theorem log2_powerOfTen_le (power : ℕ) : (Nat.pow 10 power).log2 ≤ 4 * power := by
  have le : Nat.pow 10 power ≤ 2 ^ (4 * power) := by
    rw [Nat.pow_eq, pow_mul]
    exact Nat.pow_le_pow_left (by decide) power
  have below : Nat.pow 10 power < 2 ^ (4 * power + 1) := le.trans_lt (Nat.pow_lt_pow_succ one_lt_two)
  exact Nat.lt_succ_iff.mp ((Nat.log2_lt (Nat.pow_pos (by decide)).ne').mpr below)

theorem isInf_of_isFinite {value : Float} (finite : value.isFinite = true) :
    value.isInf = false := by
  change value.toModel.unpack.isFinite = true at finite
  show value.toModel.unpack.isInf = false
  cases unpacked : value.toModel.unpack with
  | infinity sign =>
    rw [unpacked] at finite
    cases finite
  | _ => rfl

/-- A significand with two hundred zeros behind it is still a float. -/
theorem isSome_float (negated : Bool) {significand : ℕ} (digits : significand ≤ significandLimit)
    {exponent : ℤ} (small : exponent ≤ 200) :
    (float negated significand exponent).isSome = true := by
  rw [float, Option.isSome_map]
  rcases lt_or_ge exponent 0 with down | up
  · exact isSome_scaleLoop_of_neg 4 _ down
  · have limit : significandLimit < 2 ^ 64 := by decide
    have short := log2_lt_of_lt (by decide) (digits.trans_lt limit)
    have long := log2_powerOfTen_le exponent.natAbs
    obtain ⟨finite, bound⟩ := @doubleOfNat_spec significand (by omega)
    obtain ⟨power_finite, power_bound⟩ := @doubleOfNat_spec (Nat.pow 10 exponent.natAbs) (by omega)
    have product := evaluates_mul finite power_finite (by
      rw [abs_mul]
      calc _ ≤ (2 : ℚ) ^ ((significand.log2 : ℤ) + 1)
            * 2 ^ (((Nat.pow 10 exponent.natAbs).log2 : ℤ) + 1) := by gcongr
        _ = 2 ^ (((significand.log2 : ℤ) + 1) + (((Nat.pow 10 exponent.natAbs).log2 : ℤ) + 1)) :=
            (zpow_add₀ two_ne_zero _ _).symm
        _ ≤ 2 ^ (1023 : ℤ) := two_zpow_le.mpr (by omega))
    have finite := isInf_of_isFinite product.finite
    rw [scaleLoop, if_pos (by omega), if_pos up, powerOfTen]
    dsimp only
    rw [finite]
    rfl

end Numeral

/-- Figures whose exponent is small stand for a float. -/
theorem Figures.isSome_value {figures : Figures} (sound : figures.Sound)
    (small : figures.exponent.getD 0 ≤ 200) (negated : Bool) :
    (figures.value negated).isSome = true := by
  refine Numeral.isSome_float negated ?_ ?_
  · exact (Numeral.absorb_le sound.whole_le figures.fraction).1
  · rw [Figures.scale]
    omega

end KMeansSeeding.Json
