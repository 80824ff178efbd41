import KMeansSeeding.Proofs.Index.Refinement
import KMeansSeeding.Proofs.Tally

/-!
# The table of an index

A table that is made from the counts of an index has one entry per stored point. The outcomes of a
query name stored points, so they are recorded without a fault, and an export finds a weight for
every point.
-/

namespace KMeansSeeding

/-- How many points folds have. -/
def countsOf (count : Nat) (stored : Nat → List Point) : List Nat :=
  (List.range count).map fun fold => (stored fold).length

theorem getElem?_countsOf {count fold : Nat} (stored : Nat → List Point) (inside : fold < count) :
    (countsOf count stored)[fold]? = some (stored fold).length := by
  rw [countsOf, List.getElem?_map, List.getElem?_range inside, Option.map_some]

/-- Outcomes, one per fold, that name stored points. -/
structure Within (folds : Nat) (stored : Nat → List Point) (outcomes : List (Nearest Float)) :
    Prop where
  length_eq : outcomes.length = folds
  inside : ∀ fold position, closestIn fold outcomes = some position →
    position < (stored fold).length

/-- Only folds that are there have a closest position. -/
theorem Within.fold_lt {folds : Nat} {stored : Nat → List Point} {outcomes : List (Nearest Float)}
    (h : Within folds stored outcomes) {fold position : Nat}
    (named : closestIn fold outcomes = some position) : fold < folds := by
  rw [← h.length_eq]
  exact lt_of_closestIn named

/-- Points that were stored once stay where they are. -/
theorem Within.mono {folds : Nat} {stored later : Nat → List Point} {outcomes : List (Nearest Float)}
    (h : Within folds stored outcomes) (grown : ∀ fold, stored fold <+: later fold) :
    Within folds later outcomes where
  length_eq := h.length_eq
  inside fold position named :=
    Nat.lt_of_lt_of_le (h.inside fold position named) (grown fold).length_le

theorem closestIn_outcomes {configuration : Configuration} {fold : Nat}
    (inside : fold < configuration.folds) (stored : Nat → List Point) (approximate : Bool)
    (query : Point) :
    closestIn fold (configuration.outcomes stored query approximate)
      = (configuration.outcome (stored fold) query approximate).closest := by
  rw [closestIn, configuration.getElem?_outcomes stored query approximate inside, Option.bind_some]

theorem within_outcomes (configuration : Configuration) (stored : Nat → List Point) (query : Point)
    (approximate : Bool) :
    Within configuration.folds stored (configuration.outcomes stored query approximate) where
  length_eq := configuration.length_outcomes stored query approximate
  inside fold position named := by
    have room : fold < configuration.folds := by
      rw [← configuration.length_outcomes stored query approximate]
      exact lt_of_closestIn named
    rw [closestIn_outcomes room] at named
    exact Configuration.closest_lt_of_outcome named

/-- A table with an entry per stored point covers outcomes that name stored points. -/
theorem Within.covers {folds : Nat} {stored : Nat → List Point} {outcomes : List (Nearest Float)}
    (h : Within folds stored outcomes) {table : Tally}
    (shaped : table.shape = countsOf folds stored) : table.Covers outcomes where
  length_eq := by
    rw [h.length_eq, ← Tally.length_shape, shaped, countsOf, List.length_map, List.length_range]
  inside fold count position row named := by
    rw [shaped, getElem?_countsOf stored (h.fold_lt named)] at row
    obtain rfl := Option.some.inj row
    exact h.inside fold position named

/-- Outcomes are recorded as one more hit of each. -/
theorem record_outcomes (configuration : Configuration) (stored : Nat → List Point) (query : Point)
    (approximate : Bool) (past : List (List (Nearest Float))) :
    (Tally.ofHits (countsOf configuration.folds stored) (hits past)).record
        (configuration.outcomes stored query approximate)
      = .ok (.ofHits (countsOf configuration.folds stored)
          (hits (past ++ [configuration.outcomes stored query approximate]))) :=
  Tally.record_ofHits ((within_outcomes configuration stored query approximate).covers
    (Tally.shape_ofHits _ _))

namespace Index.Kept

variable {configuration : Configuration} {stored : Nat → List Point} {index : Index}

theorem counts_eq (h : Kept configuration stored index) :
    index.counts = countsOf configuration.folds stored := by
  rw [counts, h.folds_eq, foldsOf, List.map_map]
  refine List.map_congr_left fun fold _ => ?_
  exact Fold.size_ofPoints (stored fold)

/-- An export goes through the stored points fold by fold. -/
theorem weighted_eq_mapM (h : Kept configuration stored index) (source : WeightSource) :
    index.weighted source
      = (List.range configuration.folds).mapM fun fold => pairWithSource fold (stored fold) source := by
  have numbered : (List.range configuration.folds).zipIdx
      = (List.range configuration.folds).map fun fold => (fold, fold) :=
    List.ext_getElem (by simp) (by simp)
  rw [weighted, h.folds_eq, foldsOf, List.zipIdx_map, numbered, List.mapM_map, List.mapM_map]
  refine mapM_congr fun fold _ => ?_
  simp only [Function.comp_apply, Prod.map_apply, id_eq, Fold.points_ofPoints]

/-- Points whose weights are all known are exported with them. -/
theorem weighted_eq_ok (h : Kept configuration stored index) {source : WeightSource}
    {weights : (fold position : Nat) → Float}
    (known : ∀ fold < configuration.folds, ∀ position < (stored fold).length,
      source fold position = some (weights fold position)) :
    index.weighted source = .ok ((List.range configuration.folds).map fun fold =>
      (stored fold).mapIdx fun position center => ⟨center, weights fold position⟩) := by
  rw [h.weighted_eq_mapM]
  exact mapM_eq_ok_map fun fold member => pairWithSource_eq_ok (known fold (List.mem_range.mp member))

/-- The table of an index has a weight for every point of the index. -/
theorem weighted_eq (h : Kept configuration stored index) (hits : (fold position : Nat) → Nat) :
    index.weighted (Tally.ofHits (countsOf configuration.folds stored) hits).source
      = .ok ((List.range configuration.folds).map fun fold =>
          (stored fold).mapIdx fun position center => ⟨center, weightOf (hits fold position)⟩) :=
  h.weighted_eq_ok fun _ inside _ within =>
    Tally.source_ofHits hits (getElem?_countsOf stored inside) within

section Shaped

variable (h : Kept configuration stored index) {table : Tally} {count : (fold : Nat) → Nat}
  (shaped : ∀ fold < configuration.folds, table.shape[fold]? = some (count fold))

include h shaped

/-- An export succeeds with a table that has an entry for every stored point. -/
theorem weighted_of_le (enough : ∀ fold < configuration.folds, (stored fold).length ≤ count fold) :
    ∃ weighted, index.weighted table.source = .ok weighted := by
  rw [h.weighted_eq_mapM]
  refine exists_mapM_eq_ok fun fold member => ?_
  have inside := List.mem_range.mp member
  exact Tally.pairWithSource_of_le (shaped fold inside) (enough fold inside)

/-- The first fold with a point that the table has no entry for is the fault of an export. -/
theorem weighted_of_lt {fold : Nat} (inside : fold < configuration.folds)
    (enough : ∀ earlier < fold, (stored earlier).length ≤ count earlier)
    (short : count fold < (stored fold).length) :
    index.weighted table.source = .error (.tooFewWeights fold (stored fold).length (count fold)) := by
  rw [h.weighted_eq_mapM]
  refine mapM_range_eq_error inside (fun earlier before => ?_)
    (Tally.pairWithSource_of_lt (shaped fold inside) short)
  exact Tally.pairWithSource_of_le (shaped earlier (Nat.lt_trans before inside)) (enough earlier before)

end Shaped

end Index.Kept

end KMeansSeeding
