import KMeansSeeding.Binary.Precision
import Mathlib

/-!
# The numbers that floats stand for

Components and scores are floats, and what is claimed about distances is about numbers.
`Reading.number` is the number behind a reading of bits, exactly, as a fraction; `numberOfSingle` and
`numberOfDouble` take it from a float. Arithmetic does not run on readings but on unpacked floats, so
the two views are joined first: the bits of a float read as the float unpacks
(`decode_eq_ofUnpacked`), and a double that is packed unpacks to itself (`unpack_pack`).
-/

namespace KMeansSeeding

open Float.Model Float.Model.UnpackedFloat

/-- The number a reading stands for; zero for infinities and NaN. -/
def Reading.number : Reading → ℚ
  | .finite negative significand exponent =>
    ((if negative then -significand else significand : ℤ) : ℚ) * 2 ^ exponent
  | .infinite _ | .nan => 0

/-- The number a single-precision float stands for. -/
def numberOfSingle (value : Float32) : ℚ :=
  (Reading.ofSingle value).number

/-- The number a double-precision float stands for. -/
def numberOfDouble (value : Float) : ℚ :=
  (Reading.ofDouble value).number

/-! ## Readings and unpacked floats -/

/-- The layout of the floats of a format. -/
def Layout.ofFormat (format : Format) : Layout :=
  ⟨format.mantissaBitsWithoutImplicit, format.exponentBits⟩

/-- Whether a sign is that of negative numbers. -/
def isNegative : Sign → Bool
  | .negative => true
  | .positive => false

/-- What an unpacked float stands for. -/
def Reading.ofUnpacked (layout : Layout) : UnpackedFloat → Reading
  | .notANumber => .nan
  | .infinity sign => .infinite (isNegative sign)
  | .zero sign => .finite (isNegative sign) 0 layout.leastExponent
  | .finite sign significand exponent _ => .finite (isNegative sign) significand exponent

theorem isNegative_ofBitVec (bit : BitVec 1) :
    isNegative (Sign.ofBitVec bit) = (bit.toNat == 1) := by
  decide +revert

section Fields

variable {format : Format}

private theorem exponentBias_eq (format : Format) :
    (format.exponentBias : ℤ) = 2 ^ (format.exponentBits - 1) - 1 := by
  rw [Format.exponentBias, Nat.cast_sub Nat.one_le_two_pow]
  norm_cast

private theorem leastExponent_eq (format : Format) :
    (Layout.ofFormat format).leastExponent
      = 1 - ((format.exponentBias : ℤ) + format.mantissaBitsWithoutImplicit) := by
  rw [exponentBias_eq, Layout.leastExponent, Layout.ofFormat]
  push_cast [Nat.pow_eq]
  ring

/-- The leading one of a normal float. -/
theorem toNat_leading (fraction : BitVec format.mantissaBitsWithoutImplicit) :
    (1#1 ++ fraction).toNat = fraction.toNat + 2 ^ format.mantissaBitsWithoutImplicit := by
  have disjoint := Nat.two_pow_add_eq_or_of_lt fraction.isLt 1
  rw [Nat.mul_one] at disjoint
  rw [BitVec.toNat_append, BitVec.toNat_ofNat, Nat.shiftLeft_eq, Nat.one_mod, Nat.one_mul,
    ← disjoint, Nat.add_comm]

/-- Reading takes the three fields apart as unpacking does. -/
private theorem decode_fields (bits : BitVec format.numBits) :
    (Layout.ofFormat format).decode bits.toNat =
      if unpackExponent bits = -1#_ then
        if unpackMantissa bits = 0#_ then
          .infinite (isNegative (Sign.ofBitVec (unpackSign bits))) else .nan
      else if unpackExponent bits = 0#_ then
        .finite (isNegative (Sign.ofBitVec (unpackSign bits))) (unpackMantissa bits).toNat
          (Layout.ofFormat format).leastExponent
      else
        .finite (isNegative (Sign.ofBitVec (unpackSign bits))) (1#1 ++ unpackMantissa bits).toNat
          ((unpackExponent bits).toNat
            - (format.exponentBias + format.mantissaBitsWithoutImplicit)) := by
  have fraction : bits.toNat % 2 ^ format.mantissaBitsWithoutImplicit
      = (unpackMantissa bits).toNat := by
    rw [unpackMantissa_def, BitVec.extractLsb'_toNat, Nat.shiftRight_zero]
  have field : (bits.toNat >>> format.mantissaBitsWithoutImplicit) % 2 ^ format.exponentBits
      = (unpackExponent bits).toNat := by
    rw [unpackExponent_def, BitVec.extractLsb'_toNat]
  have sign : ((bits.toNat >>> (format.mantissaBitsWithoutImplicit + format.exponentBits)) % 2 == 1)
      = isNegative (Sign.ofBitVec (unpackSign bits)) := by
    rw [isNegative_ofBitVec, unpackSign_def, BitVec.extractLsb'_toNat, Nat.pow_one]
  have top : unpackExponent bits = -1#_ ↔
      (unpackExponent bits).toNat = 2 ^ format.exponentBits - 1 := by
    rw [BitVec.neg_one_eq_allOnes, ← BitVec.toNat_inj, BitVec.toNat_allOnes]
  have bottom : unpackExponent bits = 0#_ ↔ (unpackExponent bits).toNat = 0 := by
    rw [← BitVec.toNat_inj, BitVec.toNat_ofNat, Nat.zero_mod]
  have empty : unpackMantissa bits = 0#_ ↔ (unpackMantissa bits).toNat = 0 := by
    rw [← BitVec.toNat_inj, BitVec.toNat_ofNat, Nat.zero_mod]
  -- the layout writes its powers another way
  have pow (n : ℕ) : Nat.pow 2 n = 2 ^ n := rfl
  simp only [toNat_leading, top, bottom, empty, ← fraction, ← field, ← sign, Layout.decode,
    Layout.topField, Layout.ofFormat, pow]
  split_ifs
  · rfl
  · rfl
  · rfl
  · congr 1
    have least : Layout.leastExponent ⟨_, _⟩ = _ := leastExponent_eq format
    omega

end Fields

/-- The bits of a float read as the float unpacks. -/
theorem decode_eq_ofUnpacked (format : Format) (bits : BitVec format.numBits) :
    (Layout.ofFormat format).decode bits.toNat
      = .ofUnpacked (.ofFormat format) (UnpackedFloat.unpack format bits) := by
  rw [decode_fields, UnpackedFloat.unpack]
  split_ifs with top infinite bottom zero
  · rfl
  · rfl
  · rw [zero]
    rfl
  · rw [leastExponent_eq, Reading.ofUnpacked, bottom, BitVec.toNat_ofNat, Nat.zero_mod]
    congr 1
    omega
  · rfl

theorem ofDouble_eq (value : Float) :
    Reading.ofDouble value = .ofUnpacked .double value.toModel.unpack :=
  decode_eq_ofUnpacked .binary64 value.toModel.toBits.toBitVec

theorem ofSingle_eq (value : Float32) :
    Reading.ofSingle value = .ofUnpacked .single value.toModel.unpack :=
  decode_eq_ofUnpacked .binary32 value.toModel.toBits.toBitVec

theorem ofUnpacked_isFinite {layout : Layout} {value : UnpackedFloat} :
    value.isFinite = true ↔ ∃ negative significand exponent,
      Reading.ofUnpacked layout value = .finite negative significand exponent := by
  cases value <;> simp [UnpackedFloat.isFinite, Reading.ofUnpacked]

/-- A double is finite if it reads as a number. -/
theorem isFinite_iff_ofDouble {value : Float} :
    value.isFinite = true ↔ ∃ negative significand exponent,
      Reading.ofDouble value = .finite negative significand exponent := by
  rw [ofDouble_eq, ← ofUnpacked_isFinite]
  rfl

/-- A single is finite if it reads as a number. -/
theorem isFinite_iff_ofSingle {value : Float32} :
    value.isFinite = true ↔ ∃ negative significand exponent,
      Reading.ofSingle value = .finite negative significand exponent := by
  rw [ofSingle_eq, ← ofUnpacked_isFinite]
  rfl

/-! ## The fields of finite floats -/

/-- The significand and the exponent that a finite float of a layout reads with. -/
structure Layout.Holds (layout : Layout) (significand : ℕ) (exponent : ℤ) : Prop where
  digits : significand < 2 ^ (layout.fractionBits + 1)
  least : layout.leastExponent ≤ exponent
  leading : exponent = layout.leastExponent ∨ 2 ^ layout.fractionBits ≤ significand
  greatest : exponent ≤ layout.leastExponent + (layout.topField - 2 : ℕ)

theorem holds_of_decode {layout : Layout} {bits significand : ℕ} {negative : Bool} {exponent : ℤ}
    (reads : layout.decode bits = .finite negative significand exponent) :
    layout.Holds significand exponent := by
  have fraction : bits % Nat.pow 2 layout.fractionBits < 2 ^ layout.fractionBits :=
    Nat.mod_lt _ (Nat.two_pow_pos _)
  have field : (bits >>> layout.fractionBits) % Nat.pow 2 layout.exponentBits
      < 2 ^ layout.exponentBits := Nat.mod_lt _ (Nat.two_pow_pos _)
  have top : layout.topField = 2 ^ layout.exponentBits - 1 := rfl
  have hidden : Nat.pow 2 layout.fractionBits = 2 ^ layout.fractionBits := rfl
  unfold Layout.decode at reads
  dsimp only at reads
  rw [hidden] at reads fraction
  split_ifs at reads with infinite least subnormal
  · obtain ⟨-, rfl, rfl⟩ := Reading.finite.inj reads
    exact ⟨by rw [pow_succ]; omega, le_rfl, .inl rfl, by omega⟩
  · obtain ⟨-, rfl, rfl⟩ := Reading.finite.inj reads
    exact ⟨by rw [pow_succ]; omega, by omega, .inr (by omega), by omega⟩

/-- The fields of a double of any exponent from the least one on: 53 digits, all of them used unless
the exponent is the least. -/
structure Canonical (significand : ℕ) (exponent : ℤ) : Prop where
  digits : significand < 2 ^ 53
  least : -1074 ≤ exponent
  leading : exponent = -1074 ∨ 2 ^ 52 ≤ significand

theorem Layout.Holds.canonical {significand : ℕ} {exponent : ℤ}
    (h : Layout.double.Holds significand exponent) : Canonical significand exponent :=
  ⟨h.digits, h.least, h.leading⟩

/-! ## Packing -/

section Packing

variable {sign : Sign} {significand : ℕ} {exponent : ℤ}

private theorem finite_congr {m m' : ℕ} {e e' : ℤ} {positive : 0 < m} {positive' : 0 < m'}
    (significands : m = m') (exponents : e = e') :
    UnpackedFloat.finite sign m e positive = .finite sign m' e' positive' := by
  subst significands exponents
  rfl

private theorem ofNat_ne {width m n : ℕ} (hm : m < 2 ^ width) (hn : n < 2 ^ width) (h : m ≠ n) :
    BitVec.ofNat width m ≠ BitVec.ofNat width n := by
  rw [Ne, ← BitVec.toNat_inj, BitVec.toNat_ofNat, BitVec.toNat_ofNat, Nat.mod_eq_of_lt hm,
    Nat.mod_eq_of_lt hn]
  exact h

private theorem unpack_normal {field fraction : ℕ} (lower : 0 < field) (upper : field < 2047)
    (within : fraction < 2 ^ 52) :
    UnpackedFloat.unpack .binary64
        (packComponents .binary64 sign (BitVec.ofNat 11 field) (BitVec.ofNat 52 fraction))
      = .finite sign (fraction + 2 ^ 52) (field - 1075) (by positivity) := by
  have least : BitVec.ofNat 11 field ≠ 0#11 := ofNat_ne (by omega) (by omega) (by omega)
  have top : BitVec.ofNat 11 field ≠ -1#11 :=
    ofNat_ne (by omega) (by norm_num) (show field ≠ 2047 by omega)
  unfold UnpackedFloat.unpack
  simp only [unpackMantissa_packComponents, unpackExponent_packComponents,
    unpackSign_packComponents, Sign.ofBitVec_toBitVec, if_neg least, if_neg top]
  refine finite_congr ?_ ?_
  · rw [@toNat_leading .binary64, BitVec.toNat_ofNat, Nat.mod_eq_of_lt within]
  · rw [show Format.binary64.exponentBias = 1023 from rfl, BitVec.toNat_ofNat]
    omega

private theorem unpack_subnormal {fraction : ℕ} (positive : 0 < fraction)
    (within : fraction < 2 ^ 52) :
    UnpackedFloat.unpack .binary64
        (packComponents .binary64 sign 0#11 (BitVec.ofNat 52 fraction))
      = .finite sign fraction (-1074) positive := by
  have nonzero : BitVec.ofNat 52 fraction ≠ 0#52 := ofNat_ne (by omega) (by omega) (by omega)
  unfold UnpackedFloat.unpack
  simp only [unpackMantissa_packComponents, unpackExponent_packComponents,
    unpackSign_packComponents, Sign.ofBitVec_toBitVec, dif_neg nonzero]
  refine finite_congr ?_ rfl
  rw [BitVec.toNat_ofNat, Nat.mod_eq_of_lt within]

/-- A double whose exponent is not too large unpacks as it was packed. -/
theorem unpack_pack_finite (positive : 0 < significand) (canonical : Canonical significand exponent)
    (greatest : exponent ≤ 971) :
    (Float.Model.pack (.finite sign significand exponent positive)).unpack
      = .finite sign significand exponent positive := by
  obtain ⟨digits, least, leading⟩ := canonical
  show UnpackedFloat.unpack .binary64 (UnpackedFloat.pack .binary64 _) = _
  have field : (exponent + Format.binary64.exponentBias
      + Format.binary64.mantissaBitsWithoutImplicit).toNat = (exponent + 1075).toNat := by
    show (exponent + 1023 + 52).toNat = _
    omega
  have width : Format.binary64.mantissaBits = 53 := rfl
  have length := (Nat.log2_lt positive.ne').mpr digits
  simp only [UnpackedFloat.pack, field]
  rw [if_neg (show ¬ 2048 ≤ (exponent + 1075).toNat + 1 by omega)]
  by_cases normal : 2 ^ 52 ≤ significand
  · have long := (Nat.le_log2 positive.ne').mpr normal
    have cut : BitVec.ofNat 52 significand = BitVec.ofNat 52 (significand - 2 ^ 52) := by
      rw [← BitVec.toNat_inj, BitVec.toNat_ofNat, BitVec.toNat_ofNat]
      omega
    rw [if_pos (by rw [width]; omega), cut, unpack_normal (by omega) (by omega) (by omega)]
    exact finite_congr (by omega) (by omega)
  · have short := (Nat.log2_lt positive.ne').mpr (not_le.mp normal)
    rw [if_neg (by rw [width]; omega), unpack_subnormal positive (by omega)]
    exact finite_congr rfl (by omega)

end Packing

end KMeansSeeding
