import KMeansSeeding.Proofs.Binary.Infinite
import KMeansSeeding.Proofs.Binary.Widening
import KMeansSeeding.Proofs.Index.Refinement
import KMeansSeeding.Proofs.FirstLeast
import KMeansSeeding.Proofs.Norms
import KMeansSeeding.Proofs.Sums

/-!
# How far squared distances are off

The score of a center is the sum of two squared norms less twice a dot product, and each of the three
is a rounded sum. For points of finite components the score is finite, and it differs from the squared
distance by at most a small part of the squared lengths of the two points (`score_near`). The part is
not small against the distance itself: of points that are close to one another and far from the
origin, a score can be anything within the slack, and below zero.

A score with a point that is not finite is not below infinity (`scoreOf_lt_infinity_iff`), so a search
never finds such a point, and from such a point it finds nothing (`isSome_outcome_iff`).
-/

namespace KMeansSeeding

namespace Point

/-- All components are finite. -/
def AllFinite (point : Point) : Prop :=
  ∀ component ∈ point, component.isFinite = true

instance (point : Point) : Decidable point.AllFinite :=
  inferInstanceAs (Decidable (∀ component ∈ point, component.isFinite = true))

/-- The square of the length, without rounding. -/
def squaredLength (point : Point) : ℚ :=
  (point.map fun component => numberOfSingle component ^ 2).sum

/-- The square of the Euclidean distance of two points, without rounding. -/
def squaredDistance (left right : Point) : ℚ :=
  (List.zipWith (fun a b => (numberOfSingle a - numberOfSingle b) ^ 2) left right).sum

/-- How many roundings a term of a score goes through: those of its sum, and two more when the three
sums are put together. -/
def roundings (dimension : ℕ) : ℕ :=
  laneRoundings 4 dimension + 2

/-- How far a score may be off. -/
def slack (left right : Point) : ℚ :=
  2 * (growth (roundings right.length) - 1) * (left.squaredLength + right.squaredLength)

/-- The products of components, without rounding, and their magnitudes. -/
def products (left right : Point) : List (ℚ × ℚ) :=
  List.zipWith (fun a b =>
    (numberOfSingle a * numberOfSingle b, |numberOfSingle a * numberOfSingle b|)) left right

/-! ## Exact sums -/

theorem sum_products_self (point : Point) :
    (point.products point).sum = (point.squaredLength, point.squaredLength) := by
  induction point with
  | nil => rfl
  | cons component point ih =>
    have head : products (component :: point) (component :: point)
        = (numberOfSingle component * numberOfSingle component,
            |numberOfSingle component * numberOfSingle component|) :: products point point := rfl
    rw [head, List.sum_cons, ih, abs_mul_self, ← pow_two]
    rfl

section Pairs

variable {left right : Point} (same : left.length = right.length)

include same

/-- The squared distance by squared lengths and the dot product. -/
theorem squaredDistance_eq :
    left.squaredDistance right
      = right.squaredLength + left.squaredLength - 2 * (left.products right).sum.1 := by
  induction left generalizing right with
  | nil =>
    obtain rfl := List.length_eq_zero_iff.mp same.symm
    simp [squaredDistance, squaredLength, products]
  | cons a left ih =>
    cases right with
    | nil => cases same
    | cons b right =>
      have rest := ih (Nat.succ.inj same)
      simp only [squaredDistance, squaredLength, products, List.zipWith_cons_cons, List.map_cons,
        List.sum_cons, Prod.fst_add] at rest ⊢
      rw [rest]
      ring

/-- Products are no larger than squares. -/
theorem two_mul_products_le :
    2 * (left.products right).sum.2 ≤ right.squaredLength + left.squaredLength := by
  induction left generalizing right with
  | nil =>
    obtain rfl := List.length_eq_zero_iff.mp same.symm
    simp [squaredLength, products]
  | cons a left ih =>
    cases right with
    | nil => cases same
    | cons b right =>
      have rest := ih (Nat.succ.inj same)
      have head : 2 * |numberOfSingle a * numberOfSingle b|
          ≤ numberOfSingle b ^ 2 + numberOfSingle a ^ 2 := by
        rw [abs_mul, ← mul_assoc, ← sq_abs (numberOfSingle a), ← sq_abs (numberOfSingle b), add_comm]
        exact two_mul_le_add_sq _ _
      simp only [squaredLength, products, List.zipWith_cons_cons, List.map_cons,
        List.sum_cons, Prod.snd_add] at rest ⊢
      linarith

end Pairs

theorem squaredDistance_nonneg (left right : Point) : 0 ≤ left.squaredDistance right := by
  rw [squaredDistance, ← List.map_uncurry_zip_eq_zipWith]
  refine List.sum_nonneg fun square member => ?_
  obtain ⟨⟨a, b⟩, -, rfl⟩ := List.mem_map.mp member
  exact sq_nonneg _

/-! ## Rounded sums -/

section Rounded

variable {left right : Point} (hleft : left.AllFinite) (hright : right.AllFinite)

include hleft hright

/-- The products of widened components are the exact products. -/
theorem approximates_products :
    List.Forall₂ (Approximates 0 256)
      (List.zipWith (· * ·) (left.map (widen (α := Float))) (right.map (widen (α := Float))))
      (left.products right) := by
  induction left generalizing right with
  | nil => exact .nil
  | cons a left ih =>
    cases right with
    | nil => exact .nil
    | cons b right =>
      rw [AllFinite, List.forall_mem_cons] at hleft hright
      obtain ⟨finite, number⟩ := widened_mul hleft.1 hright.1
      refine .cons ⟨finite, ?_, le_rfl, ?_⟩ (ih hleft.2 hright.2)
      · show |numberOfDouble (widenSingle a * widenSingle b)| ≤ _
        rw [number]
        exact abs_mul_le hleft.1 hright.1
      · show |numberOfDouble (widenSingle a * widenSingle b) - _| ≤ _
        rw [number, sub_self, abs_zero, growth_zero, sub_self, zero_mul]

/-- A rounded dot product. -/
theorem approximates_dot (same : left.length = right.length) :
    Approximates (laneRoundings 4 right.length) 314
      (laneSum 4 (List.zipWith (· * ·) (left.map (widen (α := Float)))
        (right.map (widen (α := Float))))) (left.products right).sum := by
  have sum := approximates_laneSum 4 (approximates_products hleft hright) (by norm_num)
    (by norm_num)
  rw [List.length_zipWith, List.length_map, List.length_map, same, Nat.min_self] at sum
  exact sum

end Rounded

/-- A rounded squared norm. -/
theorem approximates_norm {point : Point} (finite : point.AllFinite) :
    Approximates (laneRoundings 4 point.length) 314 point.norm
      (point.squaredLength, point.squaredLength) := by
  have sum := approximates_dot finite finite rfl
  rw [sum_products_self, ← squaredNorm_eq_laneSum] at sum
  exact sum

/-! ## Scores -/

/-- The score of a center, as a search computes it from the two points. -/
def scoreOf (center query : Point) : Float :=
  query.norm + center.norm -
    2 * laneSum 4 (List.zipWith (· * ·) (center.map (widen (α := Float)))
      (query.map (widen (α := Float))))

section Scores

variable {center query : Point} (hcenter : center.AllFinite) (hquery : query.AllFinite)
  (same : center.length = query.length)

include hcenter hquery same

theorem approximates_score :
    Approximates (roundings query.length) 316 (scoreOf center query)
      (center.squaredDistance query,
        query.squaredLength + center.squaredLength + 2 * (center.products query).sum.2) := by
  have norms := (approximates_norm hquery).add (same ▸ approximates_norm hcenter) (by norm_num)
    (by norm_num)
  have dot := (approximates_dot hcenter hquery same).double (by norm_num)
  rw [squaredDistance_eq same]
  exact norms.sub (dot.mono (Nat.le_succ _) le_rfl) (by norm_num) (by norm_num)

/-- A score is a finite number that is off the squared distance by at most the slack. -/
theorem score_near :
    (scoreOf center query).isFinite = true ∧
      |numberOfDouble (scoreOf center query) - center.squaredDistance query|
        ≤ center.slack query := by
  have score := approximates_score hcenter hquery same
  refine ⟨score.finite, score.near.trans ?_⟩
  have products := two_mul_products_le same
  have growing := one_le_growth (roundings query.length)
  calc (growth (roundings query.length) - 1)
        * (query.squaredLength + center.squaredLength + 2 * (center.products query).sum.2)
      ≤ (growth (roundings query.length) - 1)
        * (2 * (center.squaredLength + query.squaredLength)) := by
        gcongr
        linarith
    _ = center.slack query := by
      rw [slack]
      ring

end Scores

/-! ## Points that are not finite -/

theorem boundless_norm {point : Point} (infinite : ¬ point.AllFinite) : Boundless point.norm := by
  obtain ⟨component, member, infinite⟩ : ∃ component ∈ point, component.isFinite ≠ true := by
    simpa [AllFinite] using infinite
  exact laneSum_absorbs (P := Boundless) (fun _ _ => boundless_add) 4
    ⟨_, List.mem_map_of_mem member, boundless_square infinite⟩

/-- A score is below infinity exactly if both points are finite. -/
theorem scoreOf_lt_infinity_iff {center query : Point} (same : center.length = query.length) :
    scoreOf center query < Unbounded.infinity ↔ center.AllFinite ∧ query.AllFinite := by
  constructor
  · intro below
    by_contra infinite
    rw [not_and_or] at infinite
    exact boundless_sub (boundless_add (infinite.symm.imp boundless_norm boundless_norm)) _ below
  · rintro ⟨hcenter, hquery⟩
    exact lt_infinity (score_near hcenter hquery same).1

end Point

/-! ## Outcomes -/

/-- A stored point has its score. -/
theorem Fold.score_ofPoints {points : List Point} {position : ℕ} {center : Point}
    (stored : points[position]? = some center) (query : Point) :
    (ofPoints points : Fold Float32 Float).score query query.norm position
      = center.scoreOf query :=
  score_normed stored query

/-- An outcome that is right up to rounding. It is empty only if there are no points. Else it names a
point, its distance is off the squared distance of this point by at most the slack, and so it is not
below zero by more than that, and not below zero at all if the point is far enough away. -/
inductive Accurate (points : List Point) (query : Point) : Nearest Float → Prop
  | empty (none : points = []) : Accurate points query .empty
  | found {position : ℕ} {center : Point} {distance : Float}
      (stored : points[position]? = some center) (finite : distance.isFinite = true)
      (near : |numberOfDouble distance - center.squaredDistance query| ≤ center.slack query)
      (above : -center.slack query ≤ numberOfDouble distance)
      (apart : center.slack query ≤ center.squaredDistance query → 0 ≤ distance) :
      Accurate points query ⟨distance, some position⟩

theorem accurate_score {points : List Point} {position : ℕ} {center query : Point}
    (stored : points[position]? = some center) (hcenter : center.AllFinite)
    (hquery : query.AllFinite) (same : center.length = query.length) :
    Accurate points query ⟨center.scoreOf query, some position⟩ := by
  obtain ⟨finite, near⟩ := Point.score_near hcenter hquery same
  have nonneg := center.squaredDistance_nonneg query
  obtain ⟨lower, -⟩ := abs_le.mp near
  exact .found stored finite near (by linarith) fun apart => zero_le_of_number finite (by linarith)

namespace Configuration

variable {configuration : Configuration} {points : List Point} {query : Point} {approximate : Bool}

/-- A search of some points looks at one of them at least. -/
theorem considered_ne_nil (room : 0 < configuration.samples) (some : points ≠ [])
    (approximate : Bool) : configuration.considered points query approximate ≠ [] := by
  cases approximate with
  | false => simpa [considered] using some
  | true =>
    exact (configuration.projection.sketchOf query).shortlist_ne_nil room (by simpa using some)

theorem firstLeast_outcome (configuration : Configuration) (points : List Point) (query : Point)
    (approximate : Bool) :
    Nearest.FirstLeast (configuration.considered points query approximate)
      ((Fold.ofPoints points : Fold Float32 Float).score query query.norm)
      (configuration.outcome points query approximate) :=
  Nearest.firstLeast_among
    (List.pairwise_lt_range.sublist (configuration.considered_sublist points query approximate))

/-- What a search looks at are positions of the points. -/
theorem getElem?_considered {position : ℕ}
    (member : position ∈ configuration.considered points query approximate) :
    ∃ center ∈ points, points[position]? = some center := by
  have sublist := configuration.considered_sublist points query approximate
  have inside := List.mem_range.mp (sublist.subset member)
  exact ⟨_, List.getElem_mem inside, List.getElem?_eq_getElem inside⟩

section Finite

variable (fit : ∀ point ∈ points, point.length = query.length)

include fit

/-- An outcome names a center exactly if the query is finite and the search looks at a finite
center. -/
theorem isSome_outcome_iff :
    (configuration.outcome points query approximate).closest.isSome = true ↔
      query.AllFinite ∧ ∃ position ∈ configuration.considered points query approximate,
        ∃ center, points[position]? = some center ∧ center.AllFinite := by
  rw [(configuration.firstLeast_outcome points query approximate).isSome_iff]
  constructor
  · rintro ⟨position, member, below⟩
    obtain ⟨center, among, stored⟩ := getElem?_considered member
    rw [Fold.score_ofPoints stored, Point.scoreOf_lt_infinity_iff (fit center among)] at below
    exact ⟨below.2, position, member, center, stored, below.1⟩
  · rintro ⟨hquery, position, member, center, stored, hcenter⟩
    have same := fit center (List.mem_of_getElem? stored)
    refine ⟨position, member, ?_⟩
    rw [Fold.score_ofPoints stored, Point.scoreOf_lt_infinity_iff same]
    exact ⟨hcenter, hquery⟩

variable (room : 0 < configuration.samples) (finite : ∀ point ∈ points, point.AllFinite)

include room finite

/-- Among finite points, a finite query finds a center and no other query does. -/
theorem isSome_outcome_iff_allFinite (some : points ≠ []) :
    (configuration.outcome points query approximate).closest.isSome = true ↔ query.AllFinite := by
  rw [isSome_outcome_iff fit]
  refine ⟨And.left, fun hquery => ⟨hquery, ?_⟩⟩
  have looked : configuration.considered points query approximate ≠ [] :=
    considered_ne_nil room some approximate
  obtain ⟨position, member⟩ := List.exists_mem_of_ne_nil _ looked
  obtain ⟨center, among, stored⟩ := getElem?_considered member
  exact ⟨position, member, center, stored, finite center among⟩

/-- Among points of finite components, the outcome is accurate. -/
theorem accurate_outcome (hquery : query.AllFinite) :
    Accurate points query (configuration.outcome points query approximate) := by
  have first := configuration.firstLeast_outcome points query approximate
  have named : points ≠ [] → ((configuration.outcome points query approximate).closest.isSome = true
      ↔ query.AllFinite) := isSome_outcome_iff_allFinite fit room finite
  generalize configuration.outcome points query approximate = nearest at first named ⊢
  cases first with
  | nothing =>
    -- a search of some points would have found one
    refine .empty ?_
    by_contra some
    cases (named some).mpr hquery
  | @found position member =>
    obtain ⟨center, among, stored⟩ := getElem?_considered member
    rw [Fold.score_ofPoints stored]
    exact accurate_score stored (finite center among) hquery (fit center among)

end Finite

end Configuration

end KMeansSeeding
