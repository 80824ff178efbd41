import KMeansSeeding.Proofs.Binary.Infinite
import KMeansSeeding.Proofs.ScoreOrder

/-!
# Laws of double precision

Sums of doubles are not associative, but some laws of arithmetic survive rounding. Sums and products
commute, for every double, and doubling is adding to itself, since both round the same number. A finite
double less itself is `+0`. And finite doubles compare as the numbers do that they stand for: in canonical
form, the number with the larger exponent is the larger one (`Canonical.lt_of_exponent_lt`), so the place
of a double in the order of floats is its place among the numbers.
-/

namespace KMeansSeeding

open Float.Model Float.Model.UnpackedFloat

/-! ## Commuting -/

section Commuting

private theorem sign_mul_comm (s t : Sign) : s * t = t * s := by
  cases s <;> cases t <;> rfl

theorem unpacked_add_comm (format : Format) (x y : UnpackedFloat) :
    UnpackedFloat.add format x y = UnpackedFloat.add format y x := by
  cases x with
  | notANumber => cases y <;> rfl
  | infinity s =>
    cases y with
    | infinity t => cases s <;> cases t <;> rfl
    | _ => rfl
  | zero s =>
    cases y with
    | zero t => cases s <;> cases t <;> rfl
    | _ => rfl
  | finite s m e hm =>
    cases y with
    | finite t n k hn => simp only [UnpackedFloat.add, min_comm e k, Int.add_comm]
    | _ => rfl

theorem unpacked_mul_comm (format : Format) (x y : UnpackedFloat) :
    UnpackedFloat.mul format x y = UnpackedFloat.mul format y x := by
  cases x with
  | notANumber => cases y <;> rfl
  | infinity s | zero s =>
    cases y with
    | notANumber => rfl
    | infinity t | zero t | finite t => simp only [UnpackedFloat.mul, sign_mul_comm s t]
  | finite s m e hm =>
    cases y with
    | notANumber => rfl
    | infinity t | zero t => simp only [UnpackedFloat.mul, sign_mul_comm s t]
    | finite t n k hn => simp only [UnpackedFloat.mul, sign_mul_comm s t, Nat.mul_comm m, Int.add_comm e]

theorem double_add_comm (x y : Float) : x + y = y + x :=
  congrArg (fun sum => Float.ofModel (.pack sum))
    (unpacked_add_comm .binary64 x.toModel.unpack y.toModel.unpack)

theorem double_mul_comm (x y : Float) : x * y = y * x :=
  congrArg (fun product => Float.ofModel (.pack product))
    (unpacked_mul_comm .binary64 x.toModel.unpack y.toModel.unpack)

end Commuting

/-! ## The order of numbers -/

section Order

/-- In canonical form, the larger exponent makes the larger number. -/
theorem Canonical.lt_of_exponent_lt {m n : ℕ} {e k : ℤ} (hm : Canonical m e) (hn : Canonical n k)
    (lower : e < k) : (m : ℚ) * 2 ^ e < n * 2 ^ k := by
  have leading : 2 ^ 52 ≤ n := hn.leading.resolve_left (by have := hm.least; omega)
  calc (m : ℚ) * 2 ^ e < 2 ^ 53 * 2 ^ e := by
        gcongr
        exact_mod_cast hm.digits
    _ = 2 ^ 52 * 2 ^ (e + 1) := by
        rw [two_zpow_add_one]
        ring
    _ ≤ n * 2 ^ k := by
        have : (2 : ℚ) ^ (e + 1) ≤ 2 ^ k := two_zpow_le.mpr lower
        gcongr
        exact_mod_cast leading

variable {a b : UnpackedFloat}

/-- Among doubles, a later place is a larger number. -/
theorem number_lt_of_place_lt (ha : IsDouble a) (hb : IsDouble b)
    (before : unpackedPlace a < unpackedPlace b) : unpackedNumber a < unpackedNumber b := by
  have positive_number {m : ℕ} {e : ℤ} (positive : 0 < m) : (0 : ℚ) < m * 2 ^ e := by positivity
  have magnitudes {m n : ℕ} {e k : ℤ} (hm : Canonical m e) (hn : Canonical n k)
      (lower : e < k ∨ e = k ∧ m < n) : (m : ℚ) * 2 ^ e < n * 2 ^ k := by
    rcases lower with lower | ⟨rfl, lower⟩
    · exact hm.lt_of_exponent_lt hn lower
    · gcongr
  rcases ha.cases with ⟨s, rfl⟩ | ⟨s, m, e, m_pos, hm, rfl⟩
  · rcases hb.cases with ⟨t, rfl⟩ | ⟨t, n, k, n_pos, hn, rfl⟩
    · exact absurd before (lt_irrefl _)
    · cases t with
      | negative => simp [unpackedPlace, Prod.Lex.toLex_lt_toLex] at before
      | positive => simpa [unpackedNumber, Sign.apply] using positive_number n_pos
  · rcases hb.cases with ⟨t, rfl⟩ | ⟨t, n, k, n_pos, hn, rfl⟩
    · cases s with
      | negative => simpa [unpackedNumber, Sign.apply] using positive_number m_pos
      | positive => simp [unpackedPlace, Prod.Lex.toLex_lt_toLex] at before
    · cases s <;> cases t
      · simp only [unpackedPlace, Prod.Lex.toLex_lt_toLex, lt_irrefl, true_and, false_or] at before
        simpa [unpackedNumber, Sign.apply] using magnitudes hn hm (by omega)
      · simp only [unpackedNumber, Sign.apply]
        have := positive_number (e := e) m_pos
        have := positive_number (e := k) n_pos
        push_cast
        linarith
      · simp [unpackedPlace, Prod.Lex.toLex_lt_toLex] at before
      · simp only [unpackedPlace, Prod.Lex.toLex_lt_toLex, lt_irrefl, true_and, false_or] at before
        simpa [unpackedNumber, Sign.apply] using magnitudes hm hn (by omega)

/-- Only zeros share a place. -/
theorem eq_of_place_eq (ha : IsDouble a) (hb : IsDouble b) (same : unpackedPlace a = unpackedPlace b) :
    a = b ∨ unpackedNumber a = 0 ∧ unpackedNumber b = 0 := by
  rcases ha.cases with ⟨s, rfl⟩ | ⟨s, m, e, m_pos, -, rfl⟩
  · rcases hb.cases with ⟨t, rfl⟩ | ⟨t, n, k, n_pos, -, rfl⟩
    · exact .inr ⟨rfl, rfl⟩
    · cases t <;> simp [unpackedPlace] at same
  · left
    rcases hb.cases with ⟨t, rfl⟩ | ⟨t, n, k, n_pos, -, rfl⟩
    · cases s <;> simp [unpackedPlace] at same
    · cases s <;> cases t <;>
        simp only [unpackedPlace, EmbeddingLike.apply_eq_iff_eq, Prod.mk.injEq] at same
      · obtain rfl : e = k := by omega
        obtain rfl : m = n := by omega
        rfl
      · omega
      · omega
      · obtain rfl : e = k := by omega
        obtain rfl : m = n := by omega
        rfl

theorem place_lt_iff_number_lt (ha : IsDouble a) (hb : IsDouble b) :
    unpackedPlace a < unpackedPlace b ↔ unpackedNumber a < unpackedNumber b := by
  refine ⟨number_lt_of_place_lt ha hb, fun below => ?_⟩
  rcases lt_trichotomy (unpackedPlace a) (unpackedPlace b) with before | same | after
  · exact before
  · rcases eq_of_place_eq ha hb same with rfl | ⟨zero, zero'⟩
    · exact absurd below (lt_irrefl _)
    · rw [zero, zero'] at below
      exact absurd below (lt_irrefl _)
  · exact absurd below (number_lt_of_place_lt hb ha after).not_gt

/-- A number other than zero has one double. -/
theorem eq_of_number (ha : IsDouble a) (hb : IsDouble b) (same : unpackedNumber a = unpackedNumber b)
    (nonzero : unpackedNumber a ≠ 0) : a = b := by
  have place : unpackedPlace a = unpackedPlace b := by
    refine le_antisymm (not_lt.mp fun after => ?_) (not_lt.mp fun before => ?_)
    · exact (number_lt_of_place_lt hb ha after).ne' same
    · exact (number_lt_of_place_lt ha hb before).ne same
  exact (eq_of_place_eq ha hb place).resolve_right fun zeros => nonzero zeros.1

/-- Finite doubles compare as their numbers do. -/
theorem lt_iff_number {x y : Float} (hx : x.isFinite = true) (hy : y.isFinite = true) :
    x < y ↔ numberOfDouble x < numberOfDouble y := by
  rw [numberOfDouble_eq, numberOfDouble_eq,
    ← place_lt_iff_number_lt (isDouble_unpack hx) (isDouble_unpack hy), lt_iff_place]
  exact ⟨fun h => h.2.2, fun h => ⟨isNaN_of_isFinite hx, isNaN_of_isFinite hy, h⟩⟩

end Order

/-! ## Doubling and cancelling -/

section Doubling

/-- Doubling a double rounds the same number as adding it to itself. -/
theorem two_mul_eq_add_self (x : Float) : 2 * x = x + x := by
  have unpacked_two : (2 : Float).toModel.unpack = .finite .positive (2 ^ 52) (-51) (by norm_num) := rfl
  refine congrArg (fun value => Float.ofModel (.pack value)) ?_
  show UnpackedFloat.mul .binary64 (2 : Float).toModel.unpack x.toModel.unpack
    = UnpackedFloat.add .binary64 x.toModel.unpack x.toModel.unpack
  cases unpacked : x.toModel.unpack with
  | notANumber => rfl
  | infinity s | zero s =>
    rw [unpacked_two]
    cases s <;> rfl
  | finite s m e m_pos =>
    have finite : x.isFinite = true := by
      show x.toModel.unpack.isFinite = true
      rw [unpacked]
      rfl
    have hx := isDouble_unpack finite
    have number_two : unpackedNumber (2 : Float).toModel.unpack = 2 := by
      rw [← numberOfDouble_eq, numberOfDouble_two]
    have product := rounded_mul (isDouble_unpack isFinite_two) hx
    have sum := rounded_add hx hx
    rw [number_two] at product
    rw [← two_mul] at sum
    rw [unpacked] at hx product sum
    have doubled := product.roundsTo.eq_two_mul hx
    refine eq_of_number product.isDouble sum.isDouble ?_ ?_
    · rw [doubled, sum.roundsTo.eq_two_mul hx]
    · have : (m : ℚ) * 2 ^ e ≠ 0 := by positivity
      rw [doubled]
      cases s <;> simpa [unpackedNumber, Sign.apply] using this

theorem sub_self_eq_zero {x : Float} (finite : x.isFinite = true) : x - x = 0 := by
  have zero : (0 : Float) = .ofModel (.pack (.zero .positive)) := rfl
  rw [zero]
  refine congrArg (fun value => Float.ofModel (.pack value)) ?_
  show UnpackedFloat.sub .binary64 x.toModel.unpack x.toModel.unpack = .zero .positive
  rcases (isDouble_unpack finite).cases with ⟨s, unpacked⟩ | ⟨s, m, e, positive, -, unpacked⟩
  · rw [unpacked]
    cases s <;> rfl
  · rw [unpacked]
    simp only [UnpackedFloat.sub, Int.sub_self]
    rfl

end Doubling

end KMeansSeeding
