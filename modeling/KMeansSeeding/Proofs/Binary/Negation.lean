import KMeansSeeding.Proofs.Binary.Rounding

/-!
# Opposite singles

Rounding to nearest does not look at the sign, so the negatives of two floats add up to the negative of
their sum. This is true up to the sign of zero: a sum that vanishes is `+0` on both sides. `Opposed` is
negation up to the sign of zero, and sums and products keep it (`Opposed.add`, `Opposed.mul`). All of it
is shown of unpacked floats and carried over to singles by packing and unpacking (`opposed_repack`).

A single lies above zero, below zero, or has no sign: it is a zero or not a number. Of two opposite
singles with a sign exactly one lies above zero.
-/

namespace KMeansSeeding

open Float.Model Float.Model.UnpackedFloat

/-! ## Unpacked floats -/

/-- Unpacked floats of which one is the negative of the other, up to the sign of zero. -/
inductive UnpackedOpposed : UnpackedFloat → UnpackedFloat → Prop
  | nan : UnpackedOpposed .notANumber .notANumber
  | infinity (sign : Sign) : UnpackedOpposed (.infinity sign) (.infinity (-sign))
  | zero (sign other : Sign) : UnpackedOpposed (.zero sign) (.zero other)
  | finite (sign : Sign) (significand : ℕ) (exponent : ℤ) (positive : 0 < significand) :
    UnpackedOpposed (.finite sign significand exponent positive)
      (.finite (-sign) significand exponent positive)

section Rounding

variable (format : Format) (sign : Sign) (significand : ℕ) (exponent : ℤ)

/-- Rounding keeps the sign apart from the rest. -/
theorem opposed_roundWithAccuracy (accuracy : Accuracy) :
    UnpackedOpposed (roundWithAccuracy format sign significand exponent accuracy)
      (roundWithAccuracy format (-sign) significand exponent accuracy) := by
  unfold roundWithAccuracy
  dsimp only
  split_ifs
  · exact .zero _ _
  · exact .finite _ _ _ _

theorem opposed_round :
    UnpackedOpposed (UnpackedFloat.round format sign significand exponent)
      (UnpackedFloat.round format (-sign) significand exponent) :=
  opposed_roundWithAccuracy _ _ _ _ _

theorem opposed_normalize (mantissa : ℤ) (zeroSign : Sign) :
    UnpackedOpposed (UnpackedFloat.normalize format mantissa exponent zeroSign)
      (UnpackedFloat.normalize format (-mantissa) exponent zeroSign) := by
  unfold UnpackedFloat.normalize
  rcases lt_trichotomy mantissa 0 with negative | rfl | positive
  · rw [compare_lt_iff_lt.mpr negative, compare_gt_iff_gt.mpr (neg_pos.mpr negative)]
    exact opposed_round format .negative _ _
  · exact .zero _ _
  · rw [compare_gt_iff_gt.mpr positive, compare_lt_iff_lt.mpr (neg_neg_of_pos positive), neg_neg]
    exact opposed_round format .positive _ _

end Rounding

namespace UnpackedOpposed

variable {format : Format} {x x' y y' : UnpackedFloat}

/-- The negatives of two floats add up to the negative of their sum. -/
theorem add (hx : UnpackedOpposed x x') (hy : UnpackedOpposed y y') :
    UnpackedOpposed (UnpackedFloat.add format x y) (UnpackedFloat.add format x' y') := by
  cases hx with
  | nan => exact .nan
  | infinity s =>
    cases hy with
    | nan => exact .nan
    | infinity t => cases s <;> cases t <;> first | exact .nan | exact .infinity _
    | zero | finite => exact .infinity s
  | zero s s' =>
    cases hy with
    | nan => exact .nan
    | infinity t => exact .infinity t
    | zero t t' => cases s <;> cases t <;> cases s' <;> cases t' <;> exact .zero _ _
    | finite t n k hn => exact .finite t n k hn
  | finite s m e hm =>
    cases hy with
    | nan => exact .nan
    | infinity t => exact .infinity t
    | zero => exact .finite s m e hm
    | finite t n k hn =>
      simp only [UnpackedFloat.add, apply_neg, ← neg_add]
      exact opposed_normalize _ _ _ _

private theorem neg_mul_sign (s t : Sign) : -s * t = -(s * t) := by
  cases s <;> cases t <;> rfl

/-- The negative of a factor gives the negative of the product. -/
theorem mul (hx : UnpackedOpposed x x') (y : UnpackedFloat) :
    UnpackedOpposed (UnpackedFloat.mul format x y) (UnpackedFloat.mul format x' y) := by
  cases hx with
  | nan => exact .nan
  | infinity s =>
    cases y with
    | notANumber | zero => exact .nan
    | infinity t | finite t => simpa only [UnpackedFloat.mul, neg_mul_sign] using .infinity (s * t)
  | zero s s' =>
    cases y with
    | notANumber | infinity => exact .nan
    | zero t | finite t => exact .zero _ _
  | finite s m e hm =>
    cases y with
    | notANumber => exact .nan
    | infinity t => simpa only [UnpackedFloat.mul, neg_mul_sign] using .infinity (s * t)
    | zero t => exact .zero _ _
    | finite t n k hn =>
      simp only [UnpackedFloat.mul, neg_mul_sign]
      exact opposed_roundWithAccuracy _ _ _ _ _

end UnpackedOpposed

/-! ## Packing -/

section Packing

/-- Bits with the same fields but for the sign unpack as opposite floats. -/
theorem opposed_unpack {format : Format} {bits other : BitVec format.numBits}
    (sign : Sign.ofBitVec (unpackSign other) = -Sign.ofBitVec (unpackSign bits))
    (field : unpackExponent other = unpackExponent bits)
    (fraction : unpackMantissa other = unpackMantissa bits) :
    UnpackedOpposed (UnpackedFloat.unpack format bits) (UnpackedFloat.unpack format other) := by
  unfold UnpackedFloat.unpack
  simp only [sign, field, fraction]
  split_ifs
  · exact .infinity _
  · exact .nan
  · exact .zero _ _
  · exact .finite _ _ _ _
  · exact .finite _ _ _ _

theorem opposed_packComponents (format : Format) (sign : Sign) (field : BitVec format.exponentBits)
    (fraction : BitVec format.mantissaBitsWithoutImplicit) :
    UnpackedOpposed (UnpackedFloat.unpack format (packComponents format sign field fraction))
      (UnpackedFloat.unpack format (packComponents format (-sign) field fraction)) := by
  refine opposed_unpack ?_ ?_ ?_ <;> simp

/-- Packing and unpacking keeps floats opposite. -/
theorem opposed_repack {x y : UnpackedFloat} (h : UnpackedOpposed x y) :
    UnpackedOpposed (Float32.Model.pack x).unpack (Float32.Model.pack y).unpack := by
  cases h with
  | nan => exact .nan
  | infinity sign => exact opposed_packComponents .binary32 sign _ _
  | zero sign other => cases sign <;> cases other <;> exact .zero _ _
  | finite sign significand exponent positive =>
    show UnpackedOpposed (UnpackedFloat.unpack .binary32 (UnpackedFloat.pack .binary32 _))
      (UnpackedFloat.unpack .binary32 (UnpackedFloat.pack .binary32 _))
    unfold UnpackedFloat.pack
    dsimp only
    split_ifs <;> exact opposed_packComponents .binary32 sign _ _

section Fields

variable (sign : Sign) {field : BitVec Format.binary32.exponentBits}
  {fraction : BitVec Format.binary32.mantissaBitsWithoutImplicit} {exponent : ℤ}

private theorem pack_subnormal (positive : 0 < fraction.toNat) (least : exponent = -149) :
    UnpackedFloat.pack .binary32 (.finite sign fraction.toNat exponent positive)
      = packComponents .binary32 sign 0#8 fraction := by
  have short : fraction.toNat.log2 < 23 := (Nat.log2_lt positive.ne').mpr fraction.isLt
  have width : Format.binary32.mantissaBits = 24 := rfl
  have fits : ¬ 2 ^ Format.binary32.exponentBits ≤ (exponent + Format.binary32.exponentBias
      + Format.binary32.mantissaBitsWithoutImplicit).toNat + 1 := by
    subst least
    decide
  unfold UnpackedFloat.pack
  dsimp only
  rw [if_neg fits, if_neg (by rw [width]; omega), BitVec.ofNat_toNat, BitVec.setWidth_eq]

private theorem pack_normal (top : field ≠ -1#8) (positive : 0 < (1#1 ++ fraction).toNat)
    (place : exponent = field.toNat - 150) :
    UnpackedFloat.pack .binary32 (.finite sign (1#1 ++ fraction).toNat exponent positive)
      = packComponents .binary32 sign field fraction := by
  have leading : (1#1 ++ fraction).toNat = fraction.toNat + 2 ^ 23 := toNat_leading fraction
  have bound : fraction.toNat < 2 ^ 23 := fraction.isLt
  have below : field.toNat ≠ 255 := fun same => top (BitVec.eq_of_toNat_eq same)
  have range : field.toNat < 256 := field.isLt
  have long : (1#1 ++ fraction).toNat.log2 = 23 := by
    rw [Nat.log2_eq_iff positive.ne', leading]
    omega
  have biased : (exponent + Format.binary32.exponentBias
      + Format.binary32.mantissaBitsWithoutImplicit).toNat = field.toNat := by
    show (exponent + 127 + 23).toNat = field.toNat
    omega
  have cut : BitVec.ofNat 23 (1#1 ++ fraction).toNat = fraction := by
    refine BitVec.eq_of_toNat_eq ?_
    rw [BitVec.toNat_ofNat, leading, Nat.add_mod_right, Nat.mod_eq_of_lt bound]
  unfold UnpackedFloat.pack
  dsimp only
  rw [biased, if_neg (show ¬ 256 ≤ field.toNat + 1 by omega), long,
    if_pos (show 23 + 1 = Format.binary32.mantissaBits from rfl), cut, BitVec.ofNat_toNat,
    BitVec.setWidth_eq]

end Fields

/-- A float that is unpacked, negated and packed has the fields it had, but for the sign. -/
theorem pack_neg_unpack {bits : BitVec Format.binary32.numBits}
    (number : (UnpackedFloat.unpack .binary32 bits).isNaN = false) :
    UnpackedFloat.pack .binary32 (UnpackedFloat.unpack .binary32 bits).neg
      = packComponents .binary32 (-Sign.ofBitVec (unpackSign bits)) (unpackExponent bits)
        (unpackMantissa bits) := by
  generalize field_eq : unpackExponent bits = field
  generalize fraction_eq : unpackMantissa bits = fraction
  generalize sign_eq : Sign.ofBitVec (unpackSign bits) = sign
  unfold UnpackedFloat.unpack at number ⊢
  simp only [field_eq, fraction_eq, sign_eq] at number ⊢
  split_ifs at number ⊢ with top infinite bottom zero
  · rw [top, infinite]
    rfl
  · cases number
  · rw [bottom, zero]
    rfl
  · rw [UnpackedFloat.neg, pack_subnormal _ _ (by rw [bottom]; rfl), bottom]
  · exact pack_normal _ top _ rfl

end Packing

/-! ## Singles -/

/-- Singles of which one is the negative of the other, up to the sign of zero. -/
def Opposed (x y : Float32) : Prop :=
  UnpackedOpposed x.toModel.unpack y.toModel.unpack

theorem opposed_neg (x : Float32) : Opposed x (-x) := by
  show UnpackedOpposed (UnpackedFloat.unpack .binary32 x.toModel.toBits.toBitVec)
    (UnpackedFloat.unpack .binary32 (UnpackedFloat.pack .binary32
      (UnpackedFloat.unpack .binary32 x.toModel.toBits.toBitVec).neg))
  cases number : (UnpackedFloat.unpack .binary32 x.toModel.toBits.toBitVec).isNaN with
  | false =>
    rw [pack_neg_unpack number]
    refine opposed_unpack ?_ ?_ ?_ <;> simp
  | true =>
    cases unpacked : UnpackedFloat.unpack .binary32 x.toModel.toBits.toBitVec with
    | notANumber => exact .nan
    | _ =>
      rw [unpacked] at number
      cases number

namespace Opposed

variable {x x' y y' : Float32}

protected theorem zero : Opposed 0 0 := UnpackedOpposed.zero .positive .positive

theorem add (hx : Opposed x x') (hy : Opposed y y') : Opposed (x + y) (x' + y') :=
  opposed_repack (UnpackedOpposed.add hx hy)

theorem mul (hx : Opposed x x') (y : Float32) : Opposed (x * y) (x' * y) :=
  opposed_repack (UnpackedOpposed.mul hx y.toModel.unpack)

end Opposed

/-! ## Sides of zero -/

/-- A zero of either sign, or not a number. -/
def Signless (value : Float32) : Prop :=
  (value == 0) = true ∨ value.isNaN = true

instance (value : Float32) : Decidable (Signless value) :=
  inferInstanceAs (Decidable (_ ∨ _))

section Sides

variable {x y : Float32}

theorem unpack_zero : (0 : Float32).toModel.unpack = .zero .positive := rfl

theorem lt_iff_compare :
    x < y ↔ x.toModel.unpack.compare y.toModel.unpack = some .lt := by
  refine Iff.trans decide_eq_true_iff ?_
  show (x.toModel.unpack.compare y.toModel.unpack == some .lt) = true ↔ _
  rw [beq_iff_eq]

theorem signless_iff : Signless x ↔
    (∃ sign, x.toModel.unpack = .zero sign) ∨ x.toModel.unpack = .notANumber := by
  show (x.toModel.unpack.compare (0 : Float32).toModel.unpack == some .eq) = true ∨
    x.toModel.unpack.isNaN = true ↔ _
  rw [unpack_zero, beq_iff_eq]
  cases x.toModel.unpack with
  | infinity sign => cases sign <;> simp [UnpackedFloat.compare, UnpackedFloat.isNaN]
  | finite sign => cases sign <;> simp [UnpackedFloat.compare, UnpackedFloat.isNaN]
  | _ => simp [UnpackedFloat.compare, UnpackedFloat.isNaN]

theorem not_zero_lt_of_signless (h : Signless x) : ¬ 0 < x := by
  rw [lt_iff_compare, unpack_zero]
  rcases signless_iff.mp h with ⟨sign, zero⟩ | nan
  · rw [zero]
    simp [UnpackedFloat.compare]
  · rw [nan]
    simp [UnpackedFloat.compare]

theorem not_zero_lt_of_lt_zero (h : x < 0) : ¬ 0 < x := by
  rw [lt_iff_compare, unpack_zero] at h ⊢
  cases unpacked : x.toModel.unpack with
  | infinity sign => cases sign <;> simp_all [UnpackedFloat.compare]
  | finite sign => cases sign <;> simp_all [UnpackedFloat.compare]
  | _ => simp [UnpackedFloat.compare]

/-- Of two opposite singles with a sign exactly one lies above zero. -/
theorem Opposed.zero_lt_iff (h : Opposed x y) (signed : ¬ Signless x) : 0 < y ↔ ¬ 0 < x := by
  rw [lt_iff_compare, lt_iff_compare, unpack_zero]
  rw [signless_iff] at signed
  rw [Opposed] at h
  generalize x.toModel.unpack = u at h signed ⊢
  generalize y.toModel.unpack = v at h ⊢
  cases h with
  | nan => exact absurd (.inr rfl) signed
  | zero sign => exact absurd (.inl ⟨sign, rfl⟩) signed
  | infinity sign => cases sign <;> decide
  | finite sign =>
    cases sign
    · simp [UnpackedFloat.compare]
    · simp [UnpackedFloat.compare]

theorem Opposed.signless_iff (h : Opposed x y) : Signless y ↔ Signless x := by
  rw [KMeansSeeding.signless_iff, KMeansSeeding.signless_iff]
  rw [Opposed] at h
  generalize x.toModel.unpack = u at h ⊢
  generalize y.toModel.unpack = v at h ⊢
  cases h <;> simp

end Sides

end KMeansSeeding
