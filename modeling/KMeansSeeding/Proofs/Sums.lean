import KMeansSeeding.Kernel
import KMeansSeeding.Proofs.Binary.Arithmetic

/-!
# How far sums in lanes are off

A sum of doubles is compared with the sum of the numbers it stands for. `Approximates` keeps four
things about a double on its way through a sum: that it is finite, how large it can be, the exact sum
it stands for together with the sum of the magnitudes of its terms, and how many roundings a term may
have gone through. Each addition adds one rounding (`Approximates.add`).

Sums of many terms do not overflow. Once a sum is so large that a term is below half of its last
place, the term no longer moves it (`Approximates.add_small`), so there is a bound for any number of
terms.

Any other relation of terms that addition keeps is kept by sums in lanes too (`laneSum_related`).
-/

namespace KMeansSeeding

/-! ## Sums in lanes over numbers -/

section Exact

variable {α : Type}

/-- The lanes find all the terms of their whole blocks. -/
theorem wholeBlocks_le (width count : ℕ) (lane : α) :
    count / width * (List.replicate width lane).length ≤ count := by
  rw [List.length_replicate]
  exact Nat.div_mul_le_self count width

theorem length_addBlocks [Add α] (blocks : ℕ) (lanes terms : List α)
    (enough : blocks * lanes.length ≤ terms.length) :
    (addBlocks blocks lanes terms).1.length = lanes.length ∧
      (addBlocks blocks lanes terms).2.length = terms.length - blocks * lanes.length := by
  induction blocks generalizing lanes terms with
  | zero => simp [addBlocks]
  | succ blocks ih =>
    rw [Nat.succ_mul] at enough
    have width : (List.zipWith (· + ·) lanes terms).length = lanes.length := by
      rw [List.length_zipWith]
      omega
    rw [addBlocks]
    have rest := ih (List.zipWith (· + ·) lanes terms) (terms.drop lanes.length) (by
      rw [width, List.length_drop]
      omega)
    rw [width, List.length_drop, Nat.sub_sub, Nat.add_comm, ← Nat.succ_mul] at rest
    exact rest

variable [AddCommMonoid α]

theorem sum_addBlocks (blocks : ℕ) (lanes terms : List α)
    (enough : blocks * lanes.length ≤ terms.length) :
    (addBlocks blocks lanes terms).1.sum + (addBlocks blocks lanes terms).2.sum
      = lanes.sum + terms.sum := by
  induction blocks generalizing lanes terms with
  | zero => rfl
  | succ blocks ih =>
    rw [Nat.succ_mul] at enough
    have width : (List.zipWith (· + ·) lanes terms).length = lanes.length := by
      rw [List.length_zipWith]
      omega
    rw [addBlocks, ih _ _ (by rw [width, List.length_drop]; omega),
      List.sum_add_sum_eq_sum_zipWith_add_sum_drop lanes terms,
      List.drop_eq_nil_of_le (by omega : lanes.length ≤ terms.length), List.sum_nil, add_zero]

/-- Without rounding, the order of a sum in lanes makes no difference. -/
theorem laneSum_eq_sum (width : ℕ) (terms : List α) : laneSum width terms = terms.sum := by
  have total := sum_addBlocks _ _ _ (wholeBlocks_le width terms.length 0)
  rw [List.sum_replicate, smul_zero, zero_add] at total
  show List.foldl _ (List.foldl _ 0 _) _ = _
  rw [← List.foldl_append, ← List.sum_eq_foldl, List.sum_append, total]

end Exact

/-! ## Absorbing terms -/

section Absorbing

variable {α : Type} [Add α] {P : α → Prop} (absorbing : ∀ x y : α, P x ∨ P y → P (x + y))

include absorbing

theorem foldl_absorbs {start : α} {terms : List α} (h : P start ∨ ∃ term ∈ terms, P term) :
    P (terms.foldl (· + ·) start) := by
  induction terms generalizing start with
  | nil => simpa using h
  | cons head terms ih =>
    rw [List.foldl_cons]
    apply ih
    rw [List.exists_mem_cons_iff, ← or_assoc] at h
    exact h.imp_left (absorbing _ _)

theorem zipWith_absorbs {lanes terms : List α} (enough : lanes.length ≤ terms.length)
    (h : ∃ term ∈ lanes ++ terms, P term) :
    ∃ term ∈ List.zipWith (· + ·) lanes terms ++ terms.drop lanes.length, P term := by
  induction lanes generalizing terms with
  | nil => exact h
  | cons lane lanes ih =>
    cases terms with
    | nil => exact absurd enough (Nat.not_succ_le_zero _)
    | cons head terms =>
      rw [List.zipWith_cons_cons, List.length_cons, List.drop_succ_cons, List.cons_append,
        List.exists_mem_cons_iff]
      have rest := ih (Nat.le_of_succ_le_succ enough)
      obtain ⟨term, member, absorbs⟩ := h
      rw [List.cons_append, List.mem_cons, List.mem_append, List.mem_cons] at member
      rcases member with rfl | member | rfl | member
      · exact .inl (absorbing _ _ (.inl absorbs))
      · exact .inr (rest ⟨term, List.mem_append_left _ member, absorbs⟩)
      · exact .inl (absorbing _ _ (.inr absorbs))
      · exact .inr (rest ⟨term, List.mem_append_right _ member, absorbs⟩)

/-- An absorbing term is in a lane or among the terms left, however many blocks were added. -/
theorem addBlocks_absorbs (blocks : ℕ) {lanes terms : List α}
    (enough : blocks * lanes.length ≤ terms.length) (h : ∃ term ∈ lanes ++ terms, P term) :
    ∃ term ∈ (addBlocks blocks lanes terms).1 ++ (addBlocks blocks lanes terms).2, P term := by
  induction blocks generalizing lanes terms with
  | zero => exact h
  | succ blocks ih =>
    rw [Nat.succ_mul] at enough
    have width : (List.zipWith (· + ·) lanes terms).length = lanes.length := by
      rw [List.length_zipWith]
      omega
    rw [addBlocks]
    refine ih ?_ (zipWith_absorbs absorbing (by omega) h)
    rw [width, List.length_drop]
    omega

variable [OfNat α 0]

/-- A sum in lanes absorbs as soon as one of its terms does. -/
theorem laneSum_absorbs (width : ℕ) {terms : List α} (h : ∃ term ∈ terms, P term) :
    P (laneSum width terms) := by
  obtain ⟨term, member, absorbs⟩ := h
  have left := addBlocks_absorbs absorbing _ (wholeBlocks_le width terms.length 0)
    ⟨term, List.mem_append_right _ member, absorbs⟩
  show P (List.foldl _ (List.foldl _ 0 _) _)
  rw [← List.foldl_append]
  exact foldl_absorbs absorbing (.inr left)

end Absorbing

/-! ## Approximate sums -/

/-- The factor by which a number of roundings can make a term larger. -/
def growth (roundings : ℕ) : ℚ :=
  (1 + 2 ^ (-53 : ℤ)) ^ roundings

/-- `value` is a double of magnitude at most `2 ^ bound`. It stands for the sum `target.1` of terms
whose magnitudes add up to `target.2`, each of which was rounded at most `roundings` times. -/
structure Approximates (roundings : ℕ) (bound : ℤ) (value : Float) (target : ℚ × ℚ) : Prop where
  finite : value.isFinite = true
  bounded : |numberOfDouble value| ≤ 2 ^ bound
  magnitude : |target.1| ≤ target.2
  near : |numberOfDouble value - target.1| ≤ (growth roundings - 1) * target.2

section Growth

theorem growth_zero : growth 0 = 1 :=
  pow_zero _

theorem growth_succ (roundings : ℕ) :
    growth (roundings + 1) = growth roundings * (1 + 2 ^ (-53 : ℤ)) :=
  pow_succ _ _

theorem growth_mono {few many : ℕ} (le : few ≤ many) : growth few ≤ growth many :=
  pow_le_pow_right₀ (le_add_of_nonneg_right (by positivity)) le

theorem one_le_growth (roundings : ℕ) : 1 ≤ growth roundings :=
  one_le_pow₀ (le_add_of_nonneg_right (by positivity))

/-- One more rounding of the sum of two approximate numbers. -/
theorem near_of_rounded {x y z s t a b g : ℚ} (hx : |x - s| ≤ (g - 1) * a)
    (hy : |y - t| ≤ (g - 1) * b) (hs : |s| ≤ a) (ht : |t| ≤ b)
    (hz : |z - (x + y)| ≤ 2 ^ (-53 : ℤ) * |x + y|) :
    |z - (s + t)| ≤ (g * (1 + 2 ^ (-53 : ℤ)) - 1) * (a + b) := by
  have x_le : |x| ≤ g * a := by
    have := abs_sub_abs_le_abs_sub x s
    linarith
  have y_le : |y| ≤ g * b := by
    have := abs_sub_abs_le_abs_sub y t
    linarith
  have rounding : |z - (x + y)| ≤ 2 ^ (-53 : ℤ) * (g * a + g * b) := by
    refine hz.trans ?_
    gcongr
    exact (abs_add_le x y).trans (add_le_add x_le y_le)
  calc |z - (s + t)| = |(z - (x + y)) + ((x - s) + (y - t))| := by ring_nf
    _ ≤ |z - (x + y)| + (|x - s| + |y - t|) :=
      (abs_add_le _ _).trans (add_le_add_right (abs_add_le _ _) _)
    _ ≤ 2 ^ (-53 : ℤ) * (g * a + g * b) + ((g - 1) * a + (g - 1) * b) := by gcongr
    _ = (g * (1 + 2 ^ (-53 : ℤ)) - 1) * (a + b) := by ring

end Growth

namespace Approximates

variable {j k : ℕ} {bound bound' : ℤ} {x y : Float} {s t : ℚ × ℚ}

theorem mono (h : Approximates j bound x s) (le : j ≤ k) (le' : bound ≤ bound') :
    Approximates k bound' x s := by
  refine ⟨h.finite, h.bounded.trans (two_zpow_le.mpr le'), h.magnitude, h.near.trans ?_⟩
  have growing := growth_mono le
  have positive : 0 ≤ s.2 := (abs_nonneg _).trans h.magnitude
  gcongr

theorem zero (bound : ℤ) : Approximates 0 bound 0 0 :=
  ⟨isFinite_zero, by rw [numberOfDouble_zero, abs_zero]; positivity, by simp, by simp⟩

/-- The exact sum, rounded, approximates the sum. -/
theorem add_of_evaluates (hx : Approximates k bound x s) (hy : Approximates k bound' y t)
    {z : Float} {limit : ℤ} (evaluates : Evaluates (numberOfDouble x + numberOfDouble y) z)
    (bounded : |numberOfDouble z| ≤ 2 ^ limit) : Approximates (k + 1) limit z (s + t) := by
  refine ⟨evaluates.finite, bounded, ?_, ?_⟩
  · exact (abs_add_le _ _).trans (add_le_add hx.magnitude hy.magnitude)
  · have grid := (onGrid_numberOfDouble hx.finite).add (onGrid_numberOfDouble hy.finite)
    rw [growth_succ]
    exact near_of_rounded hx.near hy.near hx.magnitude hy.magnitude
      (evaluates.roundsTo.near grid)

/-- Two sums of one size. -/
theorem add (hx : Approximates k bound x s) (hy : Approximates k bound y t) (normal : -1022 ≤ bound)
    (fits : bound ≤ 1022) : Approximates (k + 1) (bound + 1) (x + y) (s + t) := by
  have total : |numberOfDouble x + numberOfDouble y| ≤ 2 ^ (bound + 1) := by
    rw [two_zpow_add_one, two_mul]
    exact (abs_add_le _ _).trans (add_le_add hx.bounded hy.bounded)
  have evaluates := evaluates_add hx.finite hy.finite (total.trans (two_zpow_le.mpr (by omega)))
  exact hx.add_of_evaluates hy evaluates (evaluates.roundsTo.abs_le (by omega)
    (total.trans (le_add_of_nonneg_right (by positivity))))

/-- A term that is small against the bound of a sum leaves the bound as it is. -/
theorem add_small (hx : Approximates k bound x s) (hy : Approximates k bound' y t)
    (small : bound' ≤ bound - 54) (normal : -1022 ≤ bound) (fits : bound ≤ 1022) :
    Approximates (k + 1) bound (x + y) (s + t) := by
  have term : |numberOfDouble y| ≤ 2 ^ (bound - 54) := hy.bounded.trans (two_zpow_le.mpr small)
  have total : |numberOfDouble x + numberOfDouble y| ≤ 2 ^ bound + 2 ^ (bound - 54) :=
    (abs_add_le _ _).trans (add_le_add hx.bounded term)
  have double : (2 : ℚ) ^ bound + 2 ^ (bound - 54) ≤ 2 ^ (1023 : ℤ) := by
    have : (2 : ℚ) ^ (bound - 54) ≤ 2 ^ bound := two_zpow_le.mpr (by omega)
    have : (2 : ℚ) ^ (bound + 1) ≤ 2 ^ (1023 : ℤ) := two_zpow_le.mpr (by omega)
    have := two_zpow_add_one bound
    linarith
  have evaluates := evaluates_add hx.finite hy.finite (total.trans double)
  exact hx.add_of_evaluates hy evaluates (evaluates.roundsTo.abs_le normal total)

/-- A difference, whose terms are those of both sides. -/
theorem sub (hx : Approximates k bound x s) (hy : Approximates k bound y t) (normal : -1022 ≤ bound)
    (fits : bound ≤ 1022) :
    Approximates (k + 1) (bound + 1) (x - y) (s.1 - t.1, s.2 + t.2) := by
  have total : |numberOfDouble x - numberOfDouble y| ≤ 2 ^ (bound + 1) := by
    rw [two_zpow_add_one, two_mul]
    exact (abs_sub _ _).trans (add_le_add hx.bounded hy.bounded)
  have evaluates := evaluates_sub hx.finite hy.finite (total.trans (two_zpow_le.mpr (by omega)))
  have grid := (onGrid_numberOfDouble hx.finite).sub (onGrid_numberOfDouble hy.finite)
  refine ⟨evaluates.finite, evaluates.roundsTo.abs_le (by omega)
    (total.trans (le_add_of_nonneg_right (by positivity))), ?_, ?_⟩
  · exact (abs_sub _ _).trans (add_le_add hx.magnitude hy.magnitude)
  · have negated : |(-numberOfDouble y) - -t.1| ≤ (growth k - 1) * t.2 := by
      rw [neg_sub_neg, abs_sub_comm]
      exact hy.near
    have negated_magnitude : |-t.1| ≤ t.2 := by
      rw [abs_neg]
      exact hy.magnitude
    have rounding : |numberOfDouble (x - y) - (numberOfDouble x + -numberOfDouble y)|
        ≤ 2 ^ (-53 : ℤ) * |numberOfDouble x + -numberOfDouble y| := by
      rw [← sub_eq_add_neg (numberOfDouble x)]
      exact evaluates.roundsTo.near grid
    have total := near_of_rounded hx.near negated hx.magnitude negated_magnitude rounding
    rwa [← sub_eq_add_neg s.1, ← growth_succ] at total

/-- Doubling does not round. -/
theorem double (hx : Approximates k bound x s) (fits : bound ≤ 1022) :
    Approximates k (bound + 1) (2 * x) (2 * s.1, 2 * s.2) := by
  have total : |2 * numberOfDouble x| ≤ 2 ^ (bound + 1) := by
    rw [abs_mul, abs_two, two_zpow_add_one]
    exact mul_le_mul_of_nonneg_left hx.bounded two_pos.le
  obtain ⟨finite, number⟩ := two_mul_eq hx.finite (total.trans (two_zpow_le.mpr (by omega)))
  refine ⟨finite, number ▸ total, ?_, ?_⟩
  · rw [abs_mul, abs_two]
    exact mul_le_mul_of_nonneg_left hx.magnitude two_pos.le
  · rw [number, ← mul_sub, abs_mul, abs_two]
    have := hx.near
    linarith

end Approximates

/-! ## Sums in lanes -/

section Lanes

open List

/-- How many roundings a term goes through in a sum in lanes: those of its lane, those of the sum of
the lanes, and those of the terms after the last block. -/
def laneRoundings (width count : ℕ) : ℕ :=
  count / width + width + count % width

theorem forall₂_zipWith {α β γ α' β' γ' : Type} {R : α → α' → Prop} {S : β → β' → Prop}
    {T : γ → γ' → Prop} {f : α → β → γ} {g : α' → β' → γ'}
    (combine : ∀ a a' b b', R a a' → S b b' → T (f a b) (g a' b'))
    {l : List α} {l' : List α'} {m : List β} {m' : List β'} (hl : Forall₂ R l l')
    (hm : Forall₂ S m m') : Forall₂ T (zipWith f l m) (zipWith g l' m') := by
  induction hl generalizing m m' with
  | nil => exact .nil
  | cons head _ ih =>
    cases hm with
    | nil => exact .nil
    | cons head' tail' => exact .cons (combine _ _ _ _ head head') (ih tail')

variable {j k : ℕ} {bound bound' : ℤ} {x : Float} {s : ℚ × ℚ} {values : List Float}
  {targets : List (ℚ × ℚ)}

/-- Adding up small terms. -/
theorem approximates_foldl_small (hx : Approximates k bound x s)
    (h : Forall₂ (Approximates j bound') values targets) (le : j ≤ k) (small : bound' ≤ bound - 54)
    (normal : -1022 ≤ bound) (fits : bound ≤ 1022) :
    Approximates (k + values.length) bound (values.foldl (· + ·) x) (targets.foldl (· + ·) s) := by
  induction h generalizing k x s with
  | nil => exact hx
  | cons head tail ih =>
    have rest := ih (hx.add_small (head.mono le le_rfl) small normal fits) (Nat.le_succ_of_le le)
    rwa [Nat.add_assoc, Nat.add_comm 1] at rest

/-- Adding up terms that are as large as the sum. -/
theorem approximates_foldl (hx : Approximates k bound x s)
    (h : Forall₂ (Approximates j bound') values targets) (le : j ≤ k) (le' : bound' ≤ bound)
    (normal : -1022 ≤ bound) (fits : bound + values.length ≤ 1023) :
    Approximates (k + values.length) (bound + values.length) (values.foldl (· + ·) x)
      (targets.foldl (· + ·) s) := by
  induction h generalizing k bound x s with
  | nil => exact hx.mono le_rfl (by simp)
  | cons head tail ih =>
    rw [List.length_cons] at fits ⊢
    push_cast at fits
    have rest := ih (hx.add (head.mono le le') normal (by omega)) (Nat.le_succ_of_le le) (by omega)
      (by omega) (by omega)
    exact rest.mono (by omega) (by push_cast; omega)

theorem approximates_addBlocks (blocks : ℕ) {lanes : List Float} {laneTargets : List (ℚ × ℚ)}
    (hlanes : Forall₂ (Approximates k bound) lanes laneTargets)
    (h : Forall₂ (Approximates 0 bound') values targets) (small : bound' ≤ bound - 54)
    (normal : -1022 ≤ bound) (fits : bound ≤ 1022) :
    Forall₂ (Approximates (k + blocks) bound) (addBlocks blocks lanes values).1
        (addBlocks blocks laneTargets targets).1 ∧
      Forall₂ (Approximates 0 bound') (addBlocks blocks lanes values).2
        (addBlocks blocks laneTargets targets).2 := by
  induction blocks generalizing k lanes laneTargets values targets with
  | zero => exact ⟨hlanes, h⟩
  | succ blocks ih =>
    rw [addBlocks, addBlocks]
    have added : Forall₂ (Approximates (k + 1) bound) (zipWith (· + ·) lanes values)
        (zipWith (· + ·) laneTargets targets) :=
      forall₂_zipWith (fun _ _ _ _ lane term =>
        lane.add_small (term.mono (Nat.zero_le k) le_rfl) small normal fits) hlanes h
    have dropped := forall₂_drop lanes.length h
    rw [hlanes.length_eq] at dropped ⊢
    have rest := ih added dropped
    rwa [Nat.add_assoc, Nat.add_comm 1] at rest

/-- A sum in lanes of exact terms approximates the sum of the numbers they stand for. -/
theorem approximates_laneSum (width : ℕ) (h : Forall₂ (Approximates 0 bound) values targets)
    (normal : -1022 ≤ bound + 54) (fits : bound + 54 + width ≤ 1022) :
    Approximates (laneRoundings width values.length) (bound + 54 + width) (laneSum width values)
      targets.sum := by
  have started : Forall₂ (Approximates 0 (bound + 54)) (replicate width 0) (replicate width 0) := by
    induction width with
    | zero => exact .nil
    | succ width ih => exact .cons (.zero _) (ih (by push_cast at fits; omega))
  obtain ⟨lanes, rest⟩ := approximates_addBlocks (values.length / width) started h (by omega) normal
    (by omega)
  rw [Nat.zero_add] at lanes
  obtain ⟨lanes_length, rest_length⟩ := length_addBlocks _ _ _ (wholeBlocks_le width values.length 0)
  rw [length_replicate] at lanes_length rest_length
  have across := approximates_foldl ((Approximates.zero _).mono (Nat.zero_le _) le_rfl) lanes le_rfl
    le_rfl normal (by rw [lanes_length]; omega)
  have total := approximates_foldl_small across rest (Nat.zero_le _) (by omega) (by omega)
    (by rw [lanes_length]; omega)
  have left : values.length - values.length / width * width = values.length % width := by
    have := Nat.div_add_mod' values.length width
    omega
  rw [lanes_length, rest_length, left] at total
  have exact_sum : laneSum width targets = targets.sum := laneSum_eq_sum width targets
  rw [laneSum, ← h.length_eq] at exact_sum
  rw [← exact_sum]
  exact total

end Lanes

/-! ## Related terms -/

section Related

open List

variable {α β : Type} [Add α] [Add β] {R : α → β → Prop}
  (add : ∀ a b c d, R a b → R c d → R (a + c) (b + d)) {terms : List α} {terms' : List β}

include add

theorem foldl_related {start : α} {start' : β} (hstart : R start start')
    (h : Forall₂ R terms terms') : R (terms.foldl (· + ·) start) (terms'.foldl (· + ·) start') := by
  induction h generalizing start start' with
  | nil => exact hstart
  | cons head _ ih => exact ih (add _ _ _ _ hstart head)

theorem addBlocks_related (blocks : ℕ) {lanes : List α} {lanes' : List β}
    (hlanes : Forall₂ R lanes lanes') (h : Forall₂ R terms terms') :
    Forall₂ R (addBlocks blocks lanes terms).1 (addBlocks blocks lanes' terms').1 ∧
      Forall₂ R (addBlocks blocks lanes terms).2 (addBlocks blocks lanes' terms').2 := by
  induction blocks generalizing lanes lanes' terms terms' with
  | zero => exact ⟨hlanes, h⟩
  | succ blocks ih =>
    rw [addBlocks, addBlocks, hlanes.length_eq]
    exact ih (forall₂_zipWith add hlanes h) (forall₂_drop lanes'.length h)

/-- Sums in lanes of related terms are related, if zeros are and addition keeps the relation. -/
theorem laneSum_related [OfNat α 0] [OfNat β 0] (zero : R 0 0) (width : ℕ)
    (h : Forall₂ R terms terms') : R (laneSum width terms) (laneSum width terms') := by
  have started : Forall₂ R (replicate width (0 : α)) (replicate width (0 : β)) := by
    induction width with
    | zero => exact .nil
    | succ width ih => exact .cons zero ih
  obtain ⟨lanes, rest⟩ := addBlocks_related add (terms.length / width) started h
  rw [laneSum, laneSum, ← h.length_eq]
  exact foldl_related add (foldl_related add zero lanes) rest

end Related

end KMeansSeeding
