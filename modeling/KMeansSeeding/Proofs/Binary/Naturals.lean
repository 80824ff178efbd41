import KMeansSeeding.Proofs.Binary.Widening

/-!
# Natural numbers as doubles

The double nearest to a natural number is at most the power of two above it. That is all that the
size of a number text needs, so the bounds here are not sharp.
-/

namespace KMeansSeeding

theorem log2_lt_of_lt {value digits : ℕ} (some : 0 < digits) (short : value < 2 ^ digits) :
    value.log2 < digits := by
  rcases Nat.eq_zero_or_pos value with rfl | positive
  · exact some
  · exact (Nat.log2_lt positive.ne').mpr short

theorem abs_numberOfDouble {value : Float} {negative : Bool} {significand : ℕ} {exponent : ℤ}
    (reads : Reading.ofDouble value = .finite negative significand exponent) :
    |numberOfDouble value| = significand * 2 ^ exponent := by
  rw [numberOfDouble, reads, Reading.number, abs_mul,
    abs_of_pos (by positivity : (0 : ℚ) < 2 ^ exponent)]
  cases negative <;> simp

/-- A number that loses its last places may carry into one more. -/
theorem shiftRightEven_bounds {significand places digits : ℕ}
    (lower : 2 ^ (digits + places) ≤ significand) (upper : significand < 2 ^ (digits + 1 + places)) :
    2 ^ digits ≤ Layout.shiftRightEven significand places ∧
      Layout.shiftRightEven significand places ≤ 2 ^ (digits + 1) := by
  have least : 2 ^ digits ≤ significand >>> places := by
    rw [Nat.shiftRight_eq_div_pow, Nat.le_div_iff_mul_le (Nat.two_pow_pos _), ← pow_add]
    exact lower
  have most : significand >>> places < 2 ^ (digits + 1) := by
    rw [Nat.shiftRight_eq_div_pow, Nat.div_lt_iff_lt_mul (Nat.two_pow_pos _), ← pow_add]
    exact upper
  unfold Layout.shiftRightEven
  dsimp only
  split_ifs with none
  · subst none
    exact ⟨lower, upper.le⟩
  · omega
  · omega

section Nearest

variable {value : ℕ}

/-- A positive number is written with 53 digits, or with the one digit of the next power of two. -/
theorem nearestMagnitude_natural (positive : 0 < value) (small : value.log2 ≤ 1000) :
    ∃ rounded : ℕ, 2 ^ 52 ≤ rounded ∧ rounded ≤ 2 ^ 53 ∧
      Layout.double.nearestMagnitude value 0
        = (value.log2 + 1023) <<< 52 + (rounded - 2 ^ 52) := by
  have unit : max (0 + (value.log2 : ℤ) - (Layout.double.fractionBits : ℤ))
      Layout.double.leastExponent = value.log2 - 52 := by
    show max (0 + (value.log2 : ℤ) - 52) (-1074) = _
    omega
  have rounds : ∃ rounded : ℕ, 2 ^ 52 ≤ rounded ∧ rounded ≤ 2 ^ 53 ∧
      (if (value.log2 : ℤ) - 52 ≤ 0 then value <<< (0 - ((value.log2 : ℤ) - 52)).toNat
        else Layout.shiftRightEven value ((value.log2 : ℤ) - 52 - 0).toNat) = rounded := by
    split_ifs with short
    · have length : (value <<< (0 - ((value.log2 : ℤ) - 52)).toNat).log2 = 52 := by
        rw [log2_shiftLeft positive]
        omega
      have nonzero : value <<< (0 - ((value.log2 : ℤ) - 52)).toNat ≠ 0 := by
        rw [Nat.shiftLeft_eq]
        positivity
      obtain ⟨lower, upper⟩ := (Nat.log2_eq_iff nonzero).mp length
      exact ⟨_, lower, upper.le, rfl⟩
    · obtain ⟨lower, upper⟩ := (Nat.log2_eq_iff positive.ne').mp rfl
      have places : 52 + ((value.log2 : ℤ) - 52 - 0).toNat = value.log2 := by omega
      obtain ⟨least, most⟩ := @shiftRightEven_bounds value ((value.log2 : ℤ) - 52 - 0).toNat 52
        (by rwa [places]) (by rwa [Nat.add_right_comm, places])
      exact ⟨_, least, most, rfl⟩
  obtain ⟨rounded, least, most, rounded_eq⟩ := rounds
  refine ⟨rounded, least, most, ?_⟩
  have leading : ¬ rounded < Nat.pow 2 Layout.double.fractionBits := not_lt.mpr least
  have field : ((value.log2 : ℤ) - 52 - Layout.double.leastExponent).toNat + 1
      = value.log2 + 1023 := by
    show ((value.log2 : ℤ) - 52 - -1074).toNat + 1 = _
    omega
  rw [Layout.nearestMagnitude, if_neg positive.ne']
  dsimp only
  rw [unit, rounded_eq, if_neg leading, field]
  refine Nat.min_eq_left ?_
  show (value.log2 + 1023) <<< 52 + (rounded - 2 ^ 52) ≤ 2047 <<< 52
  simp only [Nat.shiftLeft_eq _ 52]
  omega

/-- The double nearest to a number that is not too large. -/
theorem ofDouble_doubleOfNat (small : value.log2 ≤ 1000) :
    ∃ significand exponent, Reading.ofDouble (doubleOfNat value) = .finite false significand exponent ∧
      (significand : ℚ) * 2 ^ exponent ≤ 2 ^ ((value.log2 : ℤ) + 1) := by
  rcases Nat.eq_zero_or_pos value with rfl | positive
  · exact ⟨0, -1074, by decide +kernel, by norm_num⟩
  · obtain ⟨rounded, least, most, bits_eq⟩ := nearestMagnitude_natural positive small
    have reads {field fraction : ℕ} (lower : 0 < field) (upper : field < 2047)
        (within : fraction < 2 ^ 52)
        (same : (value.log2 + 1023) <<< 52 + (rounded - 2 ^ 52) = field <<< 52 + fraction) :
        Reading.ofDouble (doubleOfNat value)
          = .finite false (fraction + 2 ^ 52) (-1074 + (field - 1 : ℕ)) := by
      have bits : Layout.double.nearest (.finite false value 0) = field <<< 52 + fraction := by
        rw [Layout.nearest, bits_eq, same]
        exact Nat.zero_add _
      have decoded := @decode_double false _ _ lower upper within
      have room : field <<< 52 + fraction < 2 ^ 64 := by
        rw [Nat.shiftLeft_eq]
        omega
      rw [doubleOfNat, Reading.toDouble, bits]
      refine ofDouble_ofBits ?_
      rw [UInt64.toNat_ofNat_of_lt' room]
      rw [show Layout.double.signBit false = 0 from rfl, Nat.zero_add] at decoded
      exact decoded
    rcases most.lt_or_eq with less | rfl
    · refine ⟨_, _, reads (by omega) (by omega) (show rounded - 2 ^ 52 < 2 ^ 52 by omega) rfl, ?_⟩
      have exponent_eq : -1074 + ((value.log2 + 1023 - 1 : ℕ) : ℤ) = (value.log2 : ℤ) + 1 - 53 := by
        omega
      rw [Nat.sub_add_cancel least, exponent_eq, zpow_sub₀ two_ne_zero _ 53, mul_div_left_comm]
      refine mul_le_of_le_one_right (by positivity) ?_
      rw [div_le_one (by positivity)]
      exact_mod_cast most
    · -- the carry makes it the next power of two
      have carried : (value.log2 + 1023) <<< 52 + (2 ^ 53 - 2 ^ 52)
          = (value.log2 + 1024) <<< 52 + 0 := by
        rw [Nat.shiftLeft_eq, Nat.shiftLeft_eq]
        omega
      refine ⟨_, _, reads (by omega) (by omega) (by decide) carried, ?_⟩
      have exponent_eq : -1074 + ((value.log2 + 1024 - 1 : ℕ) : ℤ) = (value.log2 : ℤ) + 1 - 52 := by
        omega
      rw [exponent_eq, zpow_sub₀ two_ne_zero _ 52, mul_div_left_comm]
      refine mul_le_of_le_one_right (by positivity) ?_
      norm_num

theorem doubleOfNat_spec (small : value.log2 ≤ 1000) :
    (doubleOfNat value).isFinite = true ∧
      |numberOfDouble (doubleOfNat value)| ≤ 2 ^ ((value.log2 : ℤ) + 1) := by
  obtain ⟨significand, exponent, reads, bound⟩ := ofDouble_doubleOfNat small
  refine ⟨isFinite_iff_ofDouble.mpr ⟨_, _, _, reads⟩, ?_⟩
  rwa [abs_numberOfDouble reads]

end Nearest

end KMeansSeeding
