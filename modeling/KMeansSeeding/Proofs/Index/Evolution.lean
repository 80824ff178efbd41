import KMeansSeeding.Proofs.Index.Retrieval
import KMeansSeeding.Proofs.Index.Snapshot

/-!
# Exact outcomes while folds grow

An exact search scans the points of a fold in order of their insertion, so one more point is one more
step of the scan (`Configuration.outcome_append_singleton`): the outcome stays as it is, or the new
point is strictly nearer. By induction on what is added, an outcome only ever changes to a nearer point
that was not there before (`Run.exact_evolves`). An addition to one fold is invisible in all others.
-/

namespace KMeansSeeding

/-! ## One fold -/

namespace Nearest

/-- What becomes of an outcome while positions from `count` on are scored: it stays, or one of these
positions is strictly nearer. -/
inductive Evolves (count : ℕ) (old : Nearest Float) : Nearest Float → Prop
  | same : Evolves count old old
  | nearer {distance : Float} {position : ℕ} (later : count ≤ position)
      (lower : distance < old.distance) : Evolves count old ⟨distance, some position⟩

namespace Evolves

variable {count : ℕ} {old new : Nearest Float}

theorem improve (h : Evolves count old new) {scored : ℕ × Float} (later : count ≤ scored.1) :
    Evolves count old (new.improve scored) := by
  rw [Nearest.improve]
  split_ifs with lower
  · cases h with
    | same => exact .nearer later lower
    | nearer _ earlier => exact .nearer later (ScoreOrder.lt_trans lower earlier)
  · exact h

theorem distance_le (h : Evolves count old new) (number : old.distance.isNaN = false) :
    new.distance ≤ old.distance := by
  cases h with
  | same => exact le_of_not_lt number number (ScoreOrder.lt_irrefl _)
  | nearer _ lower =>
    obtain ⟨number', -⟩ := ScoreOrder.isNumber_of_lt lower
    exact le_of_not_lt number' number fun higher =>
      ScoreOrder.lt_irrefl _ (ScoreOrder.lt_trans lower higher)

/-- An outcome that has changed names a later position. -/
theorem of_ne (h : Evolves count old new) (changed : new ≠ old) :
    new.distance < old.distance ∧ ∃ position, new.closest = some position ∧ count ≤ position := by
  cases h with
  | same => exact absurd rfl changed
  | nearer later lower => exact ⟨lower, _, rfl, later⟩

end Evolves

end Nearest

namespace Configuration

variable (configuration : Configuration) (points : List Point) (query : Point)

/-- The score of the last of some points. -/
def lastScore (point : Point) : Float :=
  (Fold.ofPoints (points ++ [point])).score query query.norm points.length

/-- One more point is one more step of an exact scan. -/
theorem outcome_append_singleton (point : Point) :
    configuration.outcome (points ++ [point]) query false
      = (configuration.outcome points query false).improve
          (points.length, lastScore points query point) := by
  -- the points that were there before keep their scores
  have before : ∀ position ∈ List.range points.length,
      (position, (Fold.ofPoints (points ++ [point])).score query query.norm position)
        = (position, (Fold.ofPoints points : Fold Float32 Float).score query query.norm position) := by
    intro position member
    have same : (points ++ [point])[position]? = points[position]? :=
      List.getElem?_append_left (List.mem_range.mp member)
    rw [Fold.score_ofPoints_congr same]
  rw [outcome, considered, List.length_append, List.length_singleton, List.range_succ, Fold.nearestAt,
    List.map_append, List.map_congr_left before, Nearest.among, List.foldl_append]
  rfl

theorem outcome_append (more : List Point) :
    (configuration.outcome points query false).Evolves points.length
      (configuration.outcome (points ++ more) query false) := by
  induction more using List.reverseRecOn with
  | nil =>
    rw [List.append_nil]
    exact .same
  | append_singleton more point ih =>
    rw [← List.append_assoc, outcome_append_singleton]
    exact ih.improve (by rw [List.length_append]; exact Nat.le_add_right _ _)

theorem isNaN_outcome : (configuration.outcome points query false).distance.isNaN = false :=
  (Fold.firstLeast_nearestAt _ query query.norm List.pairwise_lt_range).isNumber

end Configuration

/-! ## Runs -/

namespace Index.Kept

variable {configuration : Configuration} {stored : ℕ → List Point} {index : Index}

/-- Once a point was added, its fold has one more point and the others are as before. -/
theorem exists_grown (h : Kept configuration stored index) {point : Point}
    (fits : point.length = index.dimension) (fold : ℕ) :
    ∃ later : ℕ → List Point, Kept configuration later (index.grown point fold) ∧
      later fold = stored fold ++ [point] ∧ ∀ other ≠ fold, later other = stored other := by
  refine ⟨_, h.grown fits fold, by rw [if_pos rfl], fun other apart => ?_⟩
  rw [if_neg apart.symm, List.append_nil]

/-- Once a point was added, exact answers on its fold differ by one step of the scan. -/
theorem answer_distance_grown (h : Kept configuration stored index) {point query : Point} {fold : ℕ}
    (inside : fold < configuration.folds) (fits : point.length = index.dimension)
    (fits' : query.length = configuration.dimension) :
    ∃ score, let store : Fold Float32 Float := .ofPoints (stored fold ++ [point])
      (index.grown point fold).fold fold = .ok store ∧
      store.squaredDistance query query.norm (stored fold).length = .ok score ∧
      ((index.grown point fold).distance query fold false).answer
        = .ok ((configuration.outcome (stored fold) query false).improve
            ((stored fold).length, score)) := by
  obtain ⟨later, grown, own, -⟩ := h.exists_grown fits fold
  have store := grown.fold_eq inside
  have answer := grown.distance_eq_ok inside fits' false
  have fit := Configuration.fits_ofPoints (grown.fit fold) fits'
  rw [own] at store answer fit
  have last : (stored fold).length < (stored fold ++ [point]).length := by
    rw [List.length_append]
    exact Nat.lt_succ_self _
  refine ⟨_, store, Fold.squaredDistance_ofPoints fit query.norm last, answer.trans ?_⟩
  rw [Configuration.outcome_append_singleton]
  rfl

/-- A fold that keeps its points keeps its answers, whatever else an index goes through. -/
theorem answer_distance_congr (h : Kept configuration stored index) {later : ℕ → List Point}
    {other : Index} (h' : Kept configuration later other) {fold : ℕ} (same : later fold = stored fold)
    {query : Point} (fits : query.length = configuration.dimension) (approximate : Bool) :
    (other.distance query fold approximate).answer
      = (index.distance query fold approximate).answer := by
  rcases Nat.lt_or_ge fold configuration.folds with inside | outside
  · rw [h'.distance_eq inside fits, h.distance_eq inside fits, same]
  · have refused {index : Index} {stored : ℕ → List Point} (h : Kept configuration stored index) :
        (index.distance query fold approximate).answer
          = .error (.noSuchFold fold configuration.folds) := by
      rw [distance_eq_guarded, guarded, h.size_eq, if_pos outside]
      rfl
    rw [refused h, refused h']

end Index.Kept

namespace Run

/-- At the end of every run, an addition changes the exact answers on its fold only to the new point, and
only where that is strictly nearer, and no answer on another fold. So whatever calls follow, the exact
distance to a fold does not grow, and the closest position changes only to one that was not there before. -/
theorem exact_evolves (run : Run) {query : Point}
    (fits : query.length = run.configuration.dimension) :
    (∀ point fold, (run.index.add point fold).answer = .ok () →
      ∃ old score, let store : Fold Float32 Float := .ofPoints (run.stored fold ++ [point]);
        (run.index.distance query fold false).answer = .ok old ∧
        (run.index.add point fold).index.fold fold = .ok store ∧
        store.squaredDistance query query.norm (run.index.count fold) = .ok score ∧
        ((run.index.add point fold).index.distance query fold false).answer
          = .ok (if score < old.distance then ⟨score, some (run.index.count fold)⟩ else old) ∧
        ∀ other ≠ fold, ∀ approximate,
          ((run.index.add point fold).index.distance query other approximate).answer
            = (run.index.distance query other approximate).answer) ∧
    ∀ (later : List Call), ∀ fold < run.configuration.folds, ∃ old new,
      (run.index.distance query fold false).answer = .ok old ∧
      ((run.index.after later).distance query fold false).answer = .ok new ∧
      new.distance ≤ old.distance ∧
      (new ≠ old → new.distance < old.distance ∧ ∃ position, new.closest = some position ∧
        run.index.count fold ≤ position ∧ position < (run.index.after later).count fold) := by
  have kept := run.kept
  constructor
  · intro point fold accepted
    rcases run.index.add_cases point fold with ⟨inside, fits', added⟩ | ⟨fault, refused⟩
    · rw [kept.size_eq] at inside
      obtain ⟨score, store, scored, answer⟩ := kept.answer_distance_grown inside fits' fits
      obtain ⟨later, grown, -, others⟩ := kept.exists_grown fits' fold
      rw [added, kept.count_eq inside]
      exact ⟨_, score, kept.distance_eq_ok inside fits false, store, scored, answer,
        fun other apart => kept.answer_distance_congr grown (others other apart) fits⟩
    · rw [refused] at accepted
      cases accepted
  · intro later fold inside
    have after := kept.after later
    have evolves := run.configuration.outcome_append (run.stored fold) query
      (accepted fold (run.index.history later))
    refine ⟨_, _, kept.distance_eq_ok inside fits false, after.distance_eq_ok inside fits false,
      evolves.distance_le (run.configuration.isNaN_outcome _ _), fun changed => ?_⟩
    obtain ⟨lower, position, closest, new⟩ := evolves.of_ne changed
    rw [kept.count_eq inside, after.count_eq inside]
    exact ⟨lower, position, closest, new, Configuration.closest_lt_of_outcome closest⟩

/-- A point that is as near as the closest one leaves the answer as it is; one that is nearer becomes
the answer, and the other fold notices neither. -/
theorem exact_evolves_tie :
    ∃ run : Run, run.calls = [.add [3] 0, .add [5] 1, .distance [0] 0 true] ∧
      ([0] : Point).length = run.configuration.dimension ∧
      (run.index.add [-3] 0).answer = .ok () ∧ (run.index.add [-1] 0).answer = .ok () ∧
      ((run.index.add [-3] 0).index.distance [0] 0 false).answer = .ok ⟨9, some 0⟩ ∧
      ((run.index.add [-1] 0).index.distance [0] 0 false).answer = .ok ⟨1, some 1⟩ ∧
      ((run.index.add [-1] 0).index.distance [0] 1 true).answer
        = (run.index.distance [0] 1 true).answer := by
  let run : Run := ⟨.empty ⟨2, 1, 2, 1, 7, true⟩, _, rfl,
    [.add [3] 0, .add [5] 1, .distance [0] 0 true]⟩
  have fits : ([0] : Point).length = run.configuration.dimension := by decide
  have stored : run.stored 0 = [[3]] := by decide +kernel
  have old := run.kept.distance_eq_ok (show 0 < run.configuration.folds by decide) fits false
  have nine : run.configuration.outcome [[3]] [0] false = ⟨9, some 0⟩ := by decide +kernel
  rw [stored, nine] at old
  have count : run.index.count 0 = 1 := by decide +kernel
  have accepted {point : Point} (fits : point.length = 1) : (run.index.add point 0).answer = .ok () := by
    rw [Index.add_eq_guarded, Index.guarded_eq_step (by rw [run.kept.size_eq]; decide)
      (by rw [run.kept.dimension_eq, fits]; rfl)]
    rfl
  obtain ⟨additions, -⟩ := run.exact_evolves fits
  obtain ⟨_, score, before, -, scored, tie, -⟩ := additions [-3] 0 (accepted rfl)
  obtain ⟨_, score', before', -, scored', nearer, others⟩ := additions [-1] 0 (accepted rfl)
  obtain rfl := Except.ok.inj (before.symm.trans old)
  obtain rfl := Except.ok.inj (before'.symm.trans old)
  rw [stored, count] at scored scored'
  obtain rfl : 9 = score := Except.ok.inj (.trans (by decide +kernel) scored)
  obtain rfl : 1 = score' := Except.ok.inj (.trans (by decide +kernel) scored')
  rw [if_neg (by decide)] at tie
  rw [if_pos (by decide), count] at nearer
  exact ⟨run, rfl, fits, accepted rfl, accepted rfl, tie, nearer, others 1 (by decide) true⟩

end Run

end KMeansSeeding
