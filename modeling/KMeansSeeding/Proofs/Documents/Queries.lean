import KMeansSeeding.CommandLine.Execute
import KMeansSeeding.Proofs.Binary.Infinite
import KMeansSeeding.Proofs.Documents.Rereading
import KMeansSeeding.Proofs.Promises

/-!
# Query reports read back

JSON has no text for infinities and NaN, so a distance that is not finite is written as null, and null
reads as infinity. That is what a distance of an empty fold is, and it is the only loss: a report is
reread as itself, with infinity for every distance that is not a number or minus infinity
(`queryReport_reread`).
-/

namespace KMeansSeeding

open Json (Legible Spacing)

deriving instance DecidableEq for PointReport, QueryReport

/-! ## Distances that are not finite -/

/-- Infinity in the place of NaN and of minus infinity. -/
def settle (distance : Float) : Float :=
  if distance.isNaN = true ∨ distance = -Unbounded.infinity then Unbounded.infinity else distance

theorem settle_of_isFinite {distance : Float} (finite : distance.isFinite = true) :
    settle distance = distance := by
  refine if_neg (not_or.mpr ⟨?_, ?_⟩)
  · rw [isNaN_of_isFinite finite]
    decide
  · rintro rfl
    exact absurd finite (by decide +kernel)

theorem settle_of_not_isFinite {distance : Float} (infinite : distance.isFinite ≠ true) :
    settle distance = Unbounded.infinity := by
  unfold settle
  split_ifs with lost
  · rfl
  · cases reads : Reading.ofDouble distance with
    | nan => exact absurd (.inl (isNaN_of_nan reads)) lost
    | finite => exact absurd (isFinite_iff_ofDouble.mpr ⟨_, _, _, reads⟩) infinite
    | infinite negative =>
      cases negative with
      | false => exact eq_of_infinite reads (by decide +kernel)
      | true => exact absurd (.inr (eq_of_infinite reads (by decide +kernel))) lost

/-! ## Reports with settled distances -/

/-- An outcome with its distance settled. -/
def Nearest.settled (nearest : Nearest Float) : Nearest Float :=
  ⟨settle nearest.distance, nearest.closest⟩

/-- A report on a point with all distances settled. -/
def PointReport.settled (report : PointReport) : PointReport :=
  ⟨report.point, report.outcomes.map Nearest.settled⟩

/-- A report with all distances settled. -/
def QueryReport.settled (report : QueryReport) : QueryReport :=
  { report with points := report.points.map PointReport.settled }

/-! ## Numbers that texts can give -/

/-- An outcome whose position fits into 64 bits. -/
def Nearest.Fits (nearest : Nearest Float) : Prop :=
  ∀ position, nearest.closest = some position → position < 2 ^ 64

/-- The counters and positions of a report fit into 64 bits. -/
structure QueryReport.Fits (report : QueryReport) : Prop where
  rebuilds : report.rebuilds < 2 ^ 64
  point : ∀ point ∈ report.points, point.point < 2 ^ 64
  outcomes : ∀ point ∈ report.points, ∀ nearest ∈ point.outcomes, nearest.Fits

/-- A distance whose number text, if it has one, reads back as the distance itself. -/
def Nearest.Exact (nearest : Nearest Float) : Prop :=
  nearest.distance.isFinite = true →
    Document.number.read (Document.number.compact nearest.distance) = .ok nearest.distance

namespace Document

variable {spacing : Spacing}

/-- A finite distance whose own text reads back does so wherever it stands. -/
theorem legible_distance {distance : Float} (finite : distance.isFinite = true)
    (read : number.read (number.compact distance) = .ok distance) :
    Legible spacing .double (.double distance) (some (.double distance)) := by
  -- a number reads the same in a report as alone, and alone it reads as itself
  obtain ⟨answer, legible, -⟩ := Json.legible_double finite
  have reread : number.Rereads .compact distance answer := by
    refine ⟨_, legible .compact, ?_⟩
    rw [Option.bind_map]
    exact Option.bind_fun_some answer
  obtain rfl : some distance = answer := by
    rw [← toOption_read_compact reread, read]
    rfl
  exact legible spacing

theorem legible_position {position : Option ℕ}
    (fits : ∀ given, position = some given → given < 2 ^ 64) :
    Legible spacing (.nullable count) (position.elim .null .natural)
      (some (position.elim .null .natural)) := by
  cases position with
  | none => exact Json.legible_null count
  | some position =>
    refine Json.legible_nullable (Json.legible_natural "usize" (fits position rfl)) fun level => ?_
    exact Json.startsNumber_digitsOf position

variable (blank : spacing.Blank)

include blank

/-- An outcome is reread with its distance settled. -/
theorem rereads_nearest {outcome : Nearest Float} (fits : outcome.Fits) (same : outcome.Exact) :
    nearest.Rereads spacing outcome (some outcome.settled) := by
  -- what is written for the distance is read as it was written; only its meaning may differ
  obtain ⟨distance, written⟩ : ∃ written : Json,
      written = if outcome.distance.isFinite then .double outcome.distance else .null := ⟨_, rfl⟩
  have read : Legible spacing (.nullable .double) distance (some distance) := by
    rw [written]
    split_ifs with finite
    · exact Json.legible_nullable (legible_distance finite (same finite)) fun level =>
        Json.startsNumber_doubleText finite
    · exact Json.legible_null .double
  have position := @legible_position spacing outcome.closest fits
  refine Rereads.record blank
    [⟨required "distance" (.nullable .double), distance, some distance⟩,
      ⟨("closest", .nullable count, some .null, none), outcome.closest.elim .null .natural,
        some (outcome.closest.elim .null .natural)⟩]
    rfl (by rw [written]; rfl) (by simp [required])
    (List.forall_mem_cons.mpr ⟨read, List.forall_mem_cons.mpr ⟨position, nofun⟩⟩) ?_
  obtain ⟨value, closest⟩ := outcome
  by_cases finite : value.isFinite = true
  · rw [if_pos finite] at written
    subst written
    have kept : settle value = value := settle_of_isFinite finite
    cases closest <;> simp [nearest, Nearest.settled, kept, required]
  · rw [if_neg finite] at written
    subst written
    have lost : settle value = Unbounded.infinity := settle_of_not_isFinite finite
    cases closest <;> simp [nearest, Nearest.settled, lost, required]

/-- A report on a point is reread with all distances settled. -/
theorem rereads_pointReport {report : PointReport} (fits : report.point < 2 ^ 64)
    (outcomes_fit : ∀ outcome ∈ report.outcomes, outcome.Fits)
    (same : ∀ outcome ∈ report.outcomes, outcome.Exact) :
    pointReport.Rereads spacing report (some report.settled) := by
  have outcomes := Rereads.list blank fun outcome member =>
    rereads_nearest blank (outcomes_fit outcome member) (same outcome member)
  rw [mapM_eq_some_map fun _ _ => rfl] at outcomes
  obtain ⟨answer, legible, decoded⟩ := outcomes
  refine Rereads.record blank
    [⟨required "point" count, .natural report.point, some (.natural report.point)⟩,
      ⟨required "distances" (listOf nearest).shape, (listOf nearest).encode report.outcomes, answer⟩]
    rfl rfl (by simp [required])
    (List.forall_mem_cons.mpr ⟨Json.legible_natural "usize" fits,
      List.forall_mem_cons.mpr ⟨legible, nofun⟩⟩) ?_
  obtain ⟨distances, rfl, meaning⟩ := Option.bind_eq_some_iff.mp decoded
  simp [pointReport, meaning, PointReport.settled]

/-- A report is reread with all distances settled. -/
theorem rereads_queryReport {report : QueryReport} (fits : report.Fits)
    (same : ∀ point ∈ report.points, ∀ outcome ∈ point.outcomes, outcome.Exact) :
    queryReport.Rereads spacing report (some report.settled) := by
  have points := Rereads.list blank fun point member =>
    rereads_pointReport blank (fits.point point member) (fits.outcomes point member)
      (same point member)
  rw [mapM_eq_some_map fun _ _ => rfl] at points
  obtain ⟨answer, legible, decoded⟩ := points
  refine Rereads.record blank
    [⟨required "approximate" .flag, .flag report.approximate, some (.flag report.approximate)⟩,
      ⟨required "rebuilds" word, .natural report.rebuilds, some (.natural report.rebuilds)⟩,
      ⟨required "points" (listOf pointReport).shape, (listOf pointReport).encode report.points,
        answer⟩]
    rfl rfl (by simp [required])
    (List.forall_mem_cons.mpr ⟨Json.legible_flag _,
      List.forall_mem_cons.mpr ⟨Json.legible_natural "u64" fits.rebuilds,
        List.forall_mem_cons.mpr ⟨legible, nofun⟩⟩⟩) ?_
  obtain ⟨points, rfl, meaning⟩ := Option.bind_eq_some_iff.mp decoded
  simp [queryReport, meaning, QueryReport.settled]

end Document

/-! ## Whole reports -/

/-- A distance that is a number and not minus infinity. -/
def Nearest.IsSettled (nearest : Nearest Float) : Prop :=
  nearest.distance.isNaN = false ∧ nearest.distance ≠ -Unbounded.infinity

theorem Nearest.IsSettled.settled_eq {nearest : Nearest Float} (settled : nearest.IsSettled) :
    nearest.settled = nearest := by
  have kept : settle nearest.distance = nearest.distance :=
    if_neg (not_or.mpr ⟨by rw [settled.1]; decide, settled.2⟩)
  rw [Nearest.settled, kept]

/-- A report without distances to settle is left as it is. -/
theorem QueryReport.settled_eq {report : QueryReport}
    (settled : ∀ point ∈ report.points, ∀ outcome ∈ point.outcomes, outcome.IsSettled) :
    report.settled = report := by
  have outcomes (point : PointReport) (member : point ∈ report.points) :
      point.outcomes.map Nearest.settled = point.outcomes := by
    rw [List.map_congr_left fun outcome outcome_mem =>
      (settled point member outcome outcome_mem).settled_eq, List.map_id']
  have points : report.points.map PointReport.settled = report.points := by
    rw [List.map_congr_left fun point member => show point.settled = point by
      rw [PointReport.settled, outcomes point member], List.map_id']
  rw [QueryReport.settled, points]

/-- A report whose finite distances have exact texts is written in texts that can be read, in one line
and over several lines. They read as the report itself with infinity for every distance that is not a
number or minus infinity, so as nothing but itself if there is no such distance. -/
theorem queryReport_reread {report : QueryReport} (fits : report.Fits)
    (same : ∀ point ∈ report.points, ∀ outcome ∈ point.outcomes, outcome.Exact) :
    (∀ text, Document.queryReport.IsText QueryReport.lines report text →
      Document.queryReport.read text = .ok report.settled) ∧
    ((∀ point ∈ report.points, ∀ outcome ∈ point.outcomes, outcome.IsSettled) →
      report.settled = report) := by
  refine ⟨fun text written => toOption_eq_some_iff.mp ?_, QueryReport.settled_eq⟩
  exact @Document.IsText.toOption_read _ _ _ _ _ (· = some report.settled) written
    fun spacing blank => ⟨_, Document.rereads_queryReport blank fits same, rfl⟩

/-- Two points against three folds: an empty fold, a distance with a fraction, one that is not a
number, minus infinity, a negative zero, and the largest numbers there are. -/
theorem queryReport_reread_empty_fold :
    let report : QueryReport :=
      ⟨true, 18446744073709551615,
        [⟨0, [.empty, ⟨0.1, some 18446744073709551615⟩, ⟨0.0 / 0.0, some 0⟩]⟩,
          ⟨1, [⟨-(1.0 / 0.0), none⟩, ⟨-0.0, some 7⟩]⟩]⟩
    let reread : QueryReport :=
      ⟨true, 18446744073709551615,
        [⟨0, [.empty, ⟨0.1, some 18446744073709551615⟩, ⟨1.0 / 0.0, some 0⟩]⟩,
          ⟨1, [⟨1.0 / 0.0, none⟩, ⟨-0.0, some 7⟩]⟩]⟩
    report.Fits ∧
      (∀ point ∈ report.points, ∀ outcome ∈ point.outcomes, outcome.Exact) ∧
      Document.queryReport.read (Document.queryReport.compact report) = .ok reread ∧
      Document.queryReport.read (Document.queryReport.indented report) = .ok reread := by
  intro report reread
  have fits : report.Fits := by
    refine ⟨by decide, by decide, ?_⟩
    simp [report, Nearest.Fits, Nearest.empty]
  have same : ∀ point ∈ report.points, ∀ outcome ∈ point.outcomes, outcome.Exact := by
    have tenth : Document.number.read (Document.number.compact 0.1) = .ok 0.1 :=
      toOption_eq_some_iff.mp (by decide +kernel)
    have zero : Document.number.read (Document.number.compact (-0.0)) = .ok (-0.0) :=
      toOption_eq_some_iff.mp (by decide +kernel)
    have empty : ¬ (Unbounded.infinity : Float).isFinite = true := by decide +kernel
    have undefined : ¬ (0.0 / 0.0 : Float).isFinite = true := by decide +kernel
    have least : ¬ (-(1.0 / 0.0) : Float).isFinite = true := by decide +kernel
    simp [report, Nearest.Exact, Nearest.empty, tenth, zero, empty, undefined, least]
  have settled : report.settled = reread := by
    decide +kernel
  obtain ⟨read, -⟩ := queryReport_reread fits same
  rw [settled] at read
  exact ⟨fits, same, read _ .compact, read _ .indented⟩

end KMeansSeeding
