import KMeansSeeding.Decimal.Shortest
import Mathlib

/-!
# The shortest decimal of a float

How long the shortest decimal is does not matter to a reader of its text, but two things do: it is
not zero, and its leading digit stands about where that of the float does. Both are shown for the
search through the grids, whichever grid it ends on (`ReadBack.search_spec`), and the guess of the
leading exponent is good enough for it not to run out of grids above the float
(`ten_zpow_le_two_zpow`). `shortest_spec` is the result.
-/

namespace KMeansSeeding

section Powers

variable {a b : ℤ}

theorem ten_zpow_lt : (10 : ℚ) ^ a < 10 ^ b ↔ a < b :=
  zpow_lt_zpow_iff_right₀ (by norm_num)

theorem ten_zpow_le : (10 : ℚ) ^ a ≤ 10 ^ b ↔ a ≤ b :=
  zpow_le_zpow_iff_right₀ (by norm_num)

theorem ten_zpow_add_one (a : ℤ) : (10 : ℚ) ^ (a + 1) = 10 * 10 ^ a := by
  rw [zpow_add_one₀ (by norm_num), mul_comm]

/-- A float is at least as large as its leading bit. -/
theorem two_zpow_log2_le {significand : ℕ} (positive : 0 < significand) (exponent : ℤ) :
    (2 : ℚ) ^ (exponent + (significand.log2 : ℤ)) ≤ significand * 2 ^ exponent := by
  rw [add_comm, zpow_add₀ two_ne_zero, zpow_natCast]
  gcongr
  exact_mod_cast Nat.log2_self_le positive.ne'

/-- A power with an exponent of either sign as a fraction of natural numbers. -/
theorem zpow_eq_div (base : ℕ) (positive : 0 < base) (exponent : ℤ) :
    (base : ℚ) ^ exponent
      = (Nat.pow base exponent.toNat : ℕ) / (Nat.pow base (-exponent).toNat : ℕ) := by
  have nonzero : (base : ℚ) ≠ 0 := by exact_mod_cast positive.ne'
  have split : exponent = (exponent.toNat : ℤ) - ((-exponent).toNat : ℤ) := by omega
  conv_lhs => rw [split, zpow_sub₀ nonzero, zpow_natCast, zpow_natCast]
  rw [Nat.pow_eq, Nat.pow_eq, Nat.cast_pow, Nat.cast_pow]

/-- A power of two is not far below the power of ten with 0.30103 times its exponent. -/
theorem ten_zpow_le_two_zpow {guess exponent : ℤ} (good : guess * 100000 ≤ exponent * 30103)
    (least : -2000 ≤ exponent) (greatest : exponent ≤ 2000) :
    (10 : ℚ) ^ (guess - 19) ≤ 2 ^ exponent := by
  rcases le_total 0 exponent with nonneg | nonpos
  · -- upwards, three places are less than ten bits
    obtain ⟨steps, above, below⟩ : ∃ steps : ℕ, guess - 19 ≤ 3 * steps ∧ 10 * (steps : ℤ) ≤ exponent :=
      ⟨((guess - 17) / 3).toNat, by omega, by omega⟩
    calc (10 : ℚ) ^ (guess - 19) ≤ 10 ^ (3 * (steps : ℤ)) := ten_zpow_le.mpr above
      _ = (10 ^ 3) ^ steps := by rw [zpow_mul, zpow_natCast]; norm_num
      _ ≤ (2 ^ 10) ^ steps := by gcongr; norm_num
      _ = 2 ^ (10 * (steps : ℤ)) := by rw [zpow_mul, zpow_natCast]; norm_num
      _ ≤ 2 ^ exponent := zpow_le_zpow_right₀ one_le_two below
  · -- downwards, four places are more than thirteen bits
    obtain ⟨steps, above, below⟩ : ∃ steps : ℕ, guess - 19 ≤ -4 * (steps : ℤ) ∧
        -13 * (steps : ℤ) ≤ exponent :=
      ⟨((12 - exponent) / 13).toNat, by omega, by omega⟩
    calc (10 : ℚ) ^ (guess - 19) ≤ 10 ^ (-4 * (steps : ℤ)) := ten_zpow_le.mpr above
      _ = (10 ^ (-4 : ℤ)) ^ steps := by rw [zpow_mul, zpow_natCast]
      _ ≤ (2 ^ (-13 : ℤ)) ^ steps := by gcongr; norm_num
      _ = 2 ^ (-13 * (steps : ℤ)) := by rw [zpow_mul, zpow_natCast]
      _ ≤ 2 ^ exponent := zpow_le_zpow_right₀ one_le_two below

end Powers

/-! ## Decimals -/

namespace Decimal

/-- The number that a decimal stands for. -/
def number (decimal : Decimal) : ℚ :=
  decimal.digits * 10 ^ decimal.exponent

theorem lt_pow_length_digitsOf (value : ℕ) : value < 10 ^ (digitsOf value).length :=
  (Nat.length_toDigits_le_iff (by decide) Nat.length_toDigits_pos).mp le_rfl

theorem pow_length_digitsOf_le {value : ℕ} (positive : 0 < value) :
    10 ^ ((digitsOf value).length - 1) ≤ value := by
  by_contra below
  rcases Nat.eq_zero_or_pos ((digitsOf value).length - 1) with single | more
  · rw [single] at below
    omega
  · have shorter := (Nat.length_toDigits_le_iff (by decide) more).mpr (not_le.mp below)
    have : (digitsOf value).length ≤ (digitsOf value).length - 1 := shorter
    omega

section Leading

variable {decimal : Decimal}

theorem ten_zpow_leading_le (positive : 0 < decimal.digits) :
    10 ^ decimal.leading ≤ decimal.number := by
  rw [number, leading, add_comm, zpow_add₀ (by norm_num), zpow_natCast]
  gcongr
  exact_mod_cast pow_length_digitsOf_le positive

theorem number_lt (decimal : Decimal) : decimal.number < 10 ^ (decimal.leading + 1) := by
  have length : 0 < (digitsOf decimal.digits).length := Nat.length_toDigits_pos
  have place : decimal.leading + 1 = ((digitsOf decimal.digits).length : ℤ) + decimal.exponent := by
    rw [leading]
    omega
  rw [number, place, zpow_add₀ (by norm_num), zpow_natCast]
  gcongr
  exact_mod_cast lt_pow_length_digitsOf decimal.digits

end Leading

/-- Zeros at the end of the digits can be moved to the exponent. -/
theorem trim_spec (count : ℕ) {decimal : Decimal} (positive : 0 < decimal.digits) :
    0 < (trim count decimal).digits ∧ (trim count decimal).number = decimal.number := by
  induction count generalizing decimal with
  | zero => exact ⟨positive, rfl⟩
  | succ count ih =>
    rw [trim]
    split_ifs with zero
    · obtain ⟨positive', same⟩ :=
        @ih ⟨decimal.digits / 10, decimal.exponent + 1⟩ (show 0 < decimal.digits / 10 by omega)
      refine ⟨positive', same.trans ?_⟩
      have digits : ((decimal.digits / 10 : ℕ) : ℚ) * 10 = decimal.digits := by
        exact_mod_cast Nat.div_mul_cancel (Nat.dvd_of_mod_eq_zero zero)
      rw [number, number, ten_zpow_add_one, ← mul_assoc, digits]
    · exact ⟨positive, rfl⟩

end Decimal

/-! ## The search -/

namespace ReadBack

/-- The number that the interval is about. -/
def number (interval : ReadBack) : ℚ :=
  interval.value * interval.scale / interval.divisor

/-- The interval of a positive number. -/
structure Positive (interval : ReadBack) : Prop where
  low : 0 < interval.low
  scale : 0 < interval.scale
  divisor : 0 < interval.divisor

section Units

variable {interval : ReadBack}

theorem Positive.inUnits (h : interval.Positive) (exponent : ℤ) :
    (interval.inUnits exponent).Positive :=
  ⟨h.low, Nat.mul_pos h.scale (Nat.pow_pos (by decide)),
    Nat.mul_pos h.divisor (Nat.pow_pos (by decide))⟩

theorem number_inUnits (interval : ReadBack) (exponent : ℤ) :
    (interval.inUnits exponent).number * 10 ^ exponent = interval.number := by
  have up : ((Nat.pow 10 exponent.toNat : ℕ) : ℚ) ≠ 0 := by
    rw [Nat.pow_eq]
    positivity
  have down : ((Nat.pow 10 (-exponent).toNat : ℕ) : ℚ) ≠ 0 := by
    rw [Nat.pow_eq]
    positivity
  have power := zpow_eq_div 10 (by decide) exponent
  rw [Nat.cast_ofNat] at power
  rw [number, number, power, ReadBack.inUnits]
  push_cast [Nat.cast_mul]
  field_simp

/-- No more units than the floor are in the number. -/
theorem floor_mul_le (interval : ReadBack) (exponent : ℤ) :
    ((interval.inUnits exponent).floor : ℚ) * 10 ^ exponent ≤ interval.number := by
  rw [← number_inUnits interval exponent]
  gcongr
  rw [number, ← Nat.cast_mul]
  exact Nat.cast_div_le

theorem floor_pos (h : interval.Positive) {exponent : ℤ} (reaches : 10 ^ exponent ≤ interval.number) :
    0 < (interval.inUnits exponent).floor := by
  rw [← number_inUnits interval exponent] at reaches
  have whole : 1 ≤ (interval.inUnits exponent).number :=
    le_of_mul_le_mul_right (by rwa [one_mul]) (by positivity : (0 : ℚ) < 10 ^ exponent)
  have divisor := (h.inUnits exponent).divisor
  rw [number, le_div_iff₀ (by exact_mod_cast divisor), one_mul] at whole
  exact Nat.div_pos (by exact_mod_cast whole) divisor

theorem not_contains_zero (h : interval.Positive) : interval.contains 0 = false := by
  have low : 0 < interval.low * interval.scale := Nat.mul_pos h.low h.scale
  unfold contains
  dsimp only
  rw [Nat.zero_mul]
  split_ifs
  · simp [Nat.not_le.mpr low]
  · simp

/-- What is picked is one of the two neighbours, and not zero. -/
theorem pick_spec (h : interval.Positive) {tie : Tie} {units : ℕ}
    (picked : interval.pick tie = some units) : 0 < units ∧ units ≤ interval.floor + 1 := by
  have below (inside : interval.contains interval.floor = true) : 0 < interval.floor := by
    by_contra zero
    rw [Nat.eq_zero_of_not_pos zero, not_contains_zero h] at inside
    cases inside
  unfold pick at picked
  dsimp only at picked
  split at picked
  · rename_i inside _
    obtain rfl := Option.some.inj picked
    split_ifs
    · omega
    · exact ⟨below inside, by omega⟩
  · rename_i inside _
    obtain rfl := Option.some.inj picked
    exact ⟨below inside, by omega⟩
  · obtain rfl := Option.some.inj picked
    omega
  · cases picked

/-- The search ends on one of its grids, at a positive decimal that is less than a unit above the
number, provided that the finest grid is not too coarse for the number. -/
theorem search_spec (h : interval.Positive) (tie : Tie) (grids : ℕ) {exponent : ℤ}
    (reaches : 10 ^ (exponent - grids) ≤ interval.number) :
    0 < (interval.search tie grids exponent).digits ∧
      exponent - grids ≤ (interval.search tie grids exponent).exponent ∧
      (interval.search tie grids exponent).number ≤ interval.number + 10 ^ exponent := by
  induction grids generalizing exponent with
  | zero =>
    rw [Nat.cast_zero, sub_zero] at reaches
    refine ⟨floor_pos h reaches, by simp [search], ?_⟩
    exact (floor_mul_le interval exponent).trans (le_add_of_nonneg_right (by positivity))
  | succ grids ih =>
    rw [search]
    cases picked : (interval.inUnits exponent).pick tie with
    | some units =>
      obtain ⟨positive, near⟩ := pick_spec (h.inUnits exponent) picked
      refine ⟨positive, by dsimp only; omega, ?_⟩
      have near : (units : ℚ) ≤ (interval.inUnits exponent).floor + 1 := by exact_mod_cast near
      calc (units : ℚ) * 10 ^ exponent
          ≤ ((interval.inUnits exponent).floor + 1) * 10 ^ exponent := by gcongr
        _ = (interval.inUnits exponent).floor * 10 ^ exponent + 10 ^ exponent := by ring
        _ ≤ interval.number + 10 ^ exponent := by
          gcongr
          exact floor_mul_le interval exponent
    | none =>
      have finest : exponent - 1 - (grids : ℤ) = exponent - (grids + 1 : ℕ) := by
        push_cast
        ring
      obtain ⟨positive, least, near⟩ := @ih (exponent - 1) (by rwa [finest])
      have finer : (10 : ℚ) ^ (exponent - 1) ≤ 10 ^ exponent := ten_zpow_le.mpr (by omega)
      exact ⟨positive, by dsimp only; omega, near.trans (by linarith)⟩

theorem leading_bounds (interval : ReadBack) (guess : ℤ) :
    guess - 1 ≤ interval.leading guess ∧ interval.leading guess ≤ guess + 1 := by
  unfold ReadBack.leading
  split_ifs <;> omega

end Units

section Floats

variable (layout : Layout) {significand : ℕ} (exponent : ℤ)

theorem number_ofFloat (significand : ℕ) :
    (ofFloat layout significand exponent).number = significand * 2 ^ exponent := by
  have opposite : (2 - exponent).toNat = (-(exponent - 2)).toNat := by omega
  have power := zpow_eq_div 2 (by decide) (exponent - 2)
  rw [Nat.cast_ofNat] at power
  rw [number, ofFloat]
  dsimp only
  rw [opposite, mul_div_assoc, ← power, zpow_sub₀ two_ne_zero]
  push_cast
  ring

theorem positive_ofFloat (positive : 0 < significand) :
    (ofFloat layout significand exponent).Positive := by
  refine ⟨?_, Nat.pow_pos (by decide), Nat.pow_pos (by decide)⟩
  unfold ofFloat
  dsimp only
  split_ifs <;> omega

/-- The leading bit of a float tells between which powers of two it is. -/
theorem number_bounds (positive : 0 < significand) :
    2 ^ (exponent + (significand.log2 : ℤ)) ≤ (ofFloat layout significand exponent).number ∧
      (ofFloat layout significand exponent).number < 2 ^ (exponent + (significand.log2 : ℤ) + 1) := by
  rw [number_ofFloat]
  constructor
  · exact two_zpow_log2_le positive exponent
  · rw [add_assoc, add_comm, zpow_add₀ two_ne_zero]
    gcongr
    exact_mod_cast Nat.lt_log2_self

end Floats

end ReadBack

namespace Decimal

section Leading

variable {decimal : Decimal} {place : ℤ}

theorem le_leading (number : 10 ^ place ≤ decimal.number) : place ≤ decimal.leading := by
  have := ten_zpow_lt.mp (number.trans_lt decimal.number_lt)
  omega

theorem leading_le (positive : 0 < decimal.digits) (number : decimal.number < 10 ^ (place + 1)) :
    decimal.leading ≤ place := by
  have := ten_zpow_lt.mp ((ten_zpow_leading_le positive).trans_lt number)
  omega

end Leading

/-- The shortest decimal of a positive float is positive, and its leading exponent is bounded from
both sides by the exponent of the leading bit. -/
theorem shortest_spec (layout : Layout) (tie : Tie) {significand : ℕ} {exponent : ℤ}
    (positive : 0 < significand) (least : -2000 ≤ exponent + (significand.log2 : ℤ))
    (greatest : exponent + (significand.log2 : ℤ) ≤ 2000) :
    0 < (shortest layout tie significand exponent).digits ∧
      -1000 ≤ (shortest layout tie significand exponent).leading ∧
      (shortest layout tie significand exponent).leading
        ≤ max (exponent + (significand.log2 : ℤ) + 1) 0 := by
  obtain ⟨above, below⟩ := ReadBack.number_bounds layout exponent positive
  have floats := ReadBack.positive_ofFloat layout exponent positive
  rw [shortest]
  generalize ReadBack.ofFloat layout significand exponent = interval at above below floats ⊢
  generalize exponent + (significand.log2 : ℤ) = place at least greatest above below ⊢
  rw [Int.fdiv_eq_ediv_of_nonneg _ (by decide)]
  obtain ⟨lower, upper⟩ := interval.leading_bounds (place * 30103 / 100000)
  generalize interval.leading (place * 30103 / 100000) = start at lower upper ⊢
  have reaches : (10 : ℚ) ^ (start - (20 : ℕ)) ≤ interval.number :=
    calc (10 : ℚ) ^ (start - (20 : ℕ)) ≤ 10 ^ (place * 30103 / 100000 - 19) :=
        ten_zpow_le.mpr (by omega)
      _ ≤ 2 ^ place := ten_zpow_le_two_zpow (by omega) least greatest
      _ ≤ interval.number := above
  obtain ⟨found, finest, near⟩ := ReadBack.search_spec floats tie 20 reaches
  generalize interval.search tie 20 start = decimal at found finest near ⊢
  obtain ⟨digits, same⟩ := trim_spec 20 found
  refine ⟨digits, ?_, ?_⟩
  · refine (show -1000 ≤ decimal.exponent by omega).trans (le_leading ?_)
    rw [same, Decimal.number]
    exact le_mul_of_one_le_left (by positivity) (by exact_mod_cast found)
  · refine leading_le digits ?_
    have bound : (2 : ℚ) ^ (place + 1) ≤ 10 ^ max (place + 1) 0 :=
      calc (2 : ℚ) ^ (place + 1) ≤ 2 ^ max (place + 1) 0 :=
          zpow_le_zpow_right₀ one_le_two (le_max_left _ _)
        _ ≤ 10 ^ max (place + 1) 0 :=
          zpow_le_zpow_left₀ (le_max_right _ _) two_pos.le (by norm_num)
    have unit : (10 : ℚ) ^ start ≤ 10 ^ max (place + 1) 0 := ten_zpow_le.mpr (by omega)
    have size : (0 : ℚ) < 10 ^ max (place + 1) 0 := by positivity
    rw [same, ten_zpow_add_one]
    linarith

end Decimal

end KMeansSeeding
