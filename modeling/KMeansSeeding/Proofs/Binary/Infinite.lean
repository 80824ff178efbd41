import KMeansSeeding.Proofs.Binary.Arithmetic

/-!
# Infinity stays

A double that is not below infinity is infinity itself or not a number. No addition brings such a
double back among the numbers, whatever the other term is, and no subtraction from it does. The
square of a widened single is of this kind as soon as the single is not finite. Infinities, unlike
NaNs, are known by their sign alone (`eq_of_infinite`).
-/

namespace KMeansSeeding

open Float.Model Float.Model.UnpackedFloat

/-- A double that is not below infinity. -/
def Boundless (x : Float) : Prop :=
  ¬ x < Unbounded.infinity

section Unpacked

/-- An unpacked float that is infinity or not a number. -/
def UnpackedBoundless (value : UnpackedFloat) : Prop :=
  value = .infinity .positive ∨ value = .notANumber

variable {format : Format} {value other : UnpackedFloat}

theorem compare_infinity_iff :
    value.compare (.infinity .positive) = some .lt ↔ ¬ UnpackedBoundless value := by
  unfold UnpackedBoundless
  cases value with
  | infinity sign =>
    cases sign with
    | positive =>
      have equal : compare Sign.positive Sign.positive = .eq := rfl
      simp [UnpackedFloat.compare, equal]
    | negative =>
      have below : compare Sign.negative Sign.positive = .lt := rfl
      simp [UnpackedFloat.compare, below]
  | finite sign => cases sign <;> simp [UnpackedFloat.compare]
  | _ => simp [UnpackedFloat.compare]

/-- Infinities of both signs add up to what is not a number. -/
theorem unpackedBoundless_add_left (h : UnpackedBoundless value) :
    UnpackedBoundless (add format value other) := by
  rcases h with rfl | rfl
  · cases other with
    | infinity sign =>
      cases sign with
      | positive => exact .inl rfl
      | negative => exact .inr rfl
    | notANumber => exact .inr rfl
    | zero | finite => exact .inl rfl
  · exact .inr rfl

theorem unpackedBoundless_add_right (h : UnpackedBoundless other) :
    UnpackedBoundless (add format value other) := by
  rcases h with rfl | rfl
  · cases value with
    | infinity sign =>
      cases sign with
      | positive => exact .inl rfl
      | negative => exact .inr rfl
    | notANumber => exact .inr rfl
    | zero | finite => exact .inl rfl
  · cases value <;> exact .inr rfl

theorem unpackedBoundless_sub (h : UnpackedBoundless value) :
    UnpackedBoundless (sub .binary64 value other) := by
  rw [unpacked_sub]
  exact unpackedBoundless_add_left h

end Unpacked

section Doubles

variable {x y : Float}

theorem boundless_iff : Boundless x ↔ UnpackedBoundless x.toModel.unpack := by
  have below : x < Unbounded.infinity ↔
      (x.toModel.unpack.compare (.infinity .positive) == some .lt) = true := decide_eq_true_iff
  rw [Boundless, below, beq_iff_eq, compare_infinity_iff, not_not]

/-- What is packed as infinity or NaN unpacks as that. -/
theorem boundless_pack {value : UnpackedFloat} (h : UnpackedBoundless value) :
    Boundless (.ofModel (.pack value)) := by
  rw [boundless_iff]
  rcases h with rfl | rfl
  · exact .inl rfl
  · exact .inr rfl

/-- Infinity and what is not a number absorb every other term. -/
theorem boundless_add (h : Boundless x ∨ Boundless y) : Boundless (x + y) := by
  rw [boundless_iff, boundless_iff] at h
  rcases h with h | h
  · exact boundless_pack (unpackedBoundless_add_left h)
  · exact boundless_pack (unpackedBoundless_add_right h)

theorem boundless_sub (h : Boundless x) (y : Float) : Boundless (x - y) :=
  boundless_pack (unpackedBoundless_sub (boundless_iff.mp h))

/-- The square of what is not finite is infinity or not a number. -/
theorem boundless_square {component : Float32} (infinite : component.isFinite ≠ true) :
    Boundless (widen (α := Float) component * widen component) := by
  show Boundless (widenSingle component * widenSingle component)
  rw [widenSingle]
  cases reads : Reading.ofSingle component with
  | nan =>
    show ¬ _ < _
    decide +kernel
  | infinite negative =>
    show ¬ _ < _
    cases negative <;> decide +kernel
  | finite => exact absurd (isFinite_iff_ofSingle.mpr ⟨_, _, _, reads⟩) infinite

end Doubles

/-! ## The bits of what is not finite -/

section Bits

/-- The bits of an infinite double. -/
theorem toBits_of_infinite {value : Float} {negative : Bool}
    (reads : Reading.ofDouble value = .infinite negative) :
    value.toBits.toNat = Layout.double.signBit negative + Layout.double.infinityBits := by
  have bound := value.toBits.toNat_lt
  have top : Layout.double.topField = 2047 := rfl
  have infinity : Layout.double.infinityBits = 2047 * 2 ^ 52 := rfl
  have sign : Layout.double.signBit negative = if negative then 2 ^ 63 else 0 := rfl
  have decoded : Layout.double.decode value.toBits.toNat = .infinite negative := reads
  rw [infinity, sign]
  generalize value.toBits.toNat = bits at bound decoded ⊢
  have parts : bits % 2 ^ 52 = 0 ∧ bits / 2 ^ 52 % 2 ^ 11 = 2047 ∧
      (bits / 2 ^ 63 % 2 == 1) = negative := by
    unfold Layout.decode at decoded
    dsimp only at decoded
    split_ifs at decoded with field fraction
    · refine ⟨fraction, ?_, ?_⟩
      · rw [← Nat.shiftRight_eq_div_pow, ← top]
        exact field
      · rw [← Nat.shiftRight_eq_div_pow]
        exact Reading.infinite.inj decoded
  obtain ⟨fraction, field, negative_eq⟩ := parts
  cases negative
  · simp at negative_eq ⊢
    omega
  · simp at negative_eq ⊢
    omega

theorem eq_of_infinite {value other : Float} {negative : Bool}
    (reads : Reading.ofDouble value = .infinite negative)
    (same : Reading.ofDouble other = .infinite negative) : value = other := by
  rw [← Float.toBits_inj, ← UInt64.toNat_inj, toBits_of_infinite reads, toBits_of_infinite same]

theorem isNaN_of_nan {value : Float} (reads : Reading.ofDouble value = .nan) :
    value.isNaN = true := by
  rw [ofDouble_eq] at reads
  show value.toModel.unpack.isNaN = true
  cases unpacked : value.toModel.unpack with
  | notANumber => rfl
  | _ =>
    rw [unpacked] at reads
    cases reads

theorem isNaN_of_isFinite {value : Float} (finite : value.isFinite = true) :
    value.isNaN = false := by
  change value.toModel.unpack.isFinite = true at finite
  show value.toModel.unpack.isNaN = false
  cases unpacked : value.toModel.unpack with
  | notANumber =>
    rw [unpacked] at finite
    cases finite
  | _ => rfl

end Bits

end KMeansSeeding
