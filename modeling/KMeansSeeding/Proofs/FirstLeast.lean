import KMeansSeeding.Proofs.ScoreOrder
import Mathlib.Data.List.Induction

/-!
# The first least score

`Nearest.among` keeps a running strict minimum. `FirstLeast` says what that comes to: the outcome
names the first position that has a least score, unless no score is below infinity. The outcome is
determined by this, so two searches over the same scores compare through the positions they look at,
and no search has to be run again.
-/

namespace KMeansSeeding.Nearest

variable {α : Type} [Unbounded α] [LT α]

/-- An outcome of scoring some positions: nothing if no score is below infinity, else the first of
the least scores. -/
inductive FirstLeast (positions : List Nat) (score : Nat → α) : Nearest α → Prop
  | nothing (unbounded : ∀ other ∈ positions, ¬ score other < Unbounded.infinity) :
      FirstLeast positions score .empty
  | found {position : Nat} (member : position ∈ positions)
      (bounded : score position < Unbounded.infinity)
      (least : ∀ other ∈ positions, ¬ score other < score position)
      (first : ∀ other ∈ positions, other < position → score other < Unbounded.infinity →
        score position < score other) :
      FirstLeast positions score ⟨score position, some position⟩

variable [ScoreOrder α] {positions all : List Nat} {score : Nat → α} {nearest : Nearest α}

open ScoreOrder

/-- A running strict minimum over ascending positions ends at the first least score. -/
theorem firstLeast_among [DecidableLT α] (ascending : positions.Pairwise (· < ·)) :
    FirstLeast positions score (among (positions.map fun position => (position, score position))) := by
  induction positions using List.reverseRecOn with
  | nil => exact .nothing (by simp)
  | append_singleton positions last ih =>
    rw [List.pairwise_append] at ascending
    have before : ∀ other ∈ positions, other < last :=
      fun other member => ascending.2.2 other member last (List.mem_singleton_self _)
    have split : ∀ {P : Nat → Prop}, (∀ other ∈ positions, P other) → P last →
        ∀ other ∈ positions ++ [last], P other := by
      intro P h hlast other member
      rcases List.mem_append.mp member with member | member
      · exact h other member
      · exact List.mem_singleton.mp member ▸ hlast
    have earlier := ih ascending.1
    rw [List.map_append, among, List.foldl_append]
    show FirstLeast _ _ (improve (among (positions.map fun p => (p, score p))) (last, score last))
    generalize among (positions.map fun p => (p, score p)) = best at earlier ⊢
    cases earlier with
    | nothing unbounded =>
      rw [improve]
      split_ifs with better
      · refine .found (List.mem_append_right _ (List.mem_singleton_self _)) better
          (split (fun other member lower => ?_) (lt_irrefl _))
          (split (fun other member _ bounded => ?_) fun h => absurd h (Nat.lt_irrefl _))
        · exact unbounded other member (lt_trans lower better)
        · exact absurd bounded (unbounded other member)
      · exact .nothing (split unbounded better)
    | @found position member bounded least first =>
      rw [improve]
      split_ifs with better
      · refine .found (List.mem_append_right _ (List.mem_singleton_self _)) (lt_trans better bounded)
          (split (fun other member lower => ?_) (lt_irrefl _))
          (split (fun other member _ bounded => ?_) fun h => absurd h (Nat.lt_irrefl _))
        · exact least other member (lt_trans lower better)
        · -- the new minimum is below the old one, and `other` is not
          rcases lt_or_lt better (isNumber_of_lt bounded).1 with lower | lower
          · exact lower
          · exact absurd lower (least other member)
      · refine .found (List.mem_append_left _ member) bounded (split least better)
          (split first fun h => ?_)
        exact absurd (before position member) (Nat.lt_asymm h)

namespace FirstLeast

omit [ScoreOrder α] in
/-- There is one outcome of scoring some positions. -/
theorem unique {other : Nearest α} (left : FirstLeast positions score nearest)
    (right : FirstLeast positions score other) : nearest = other := by
  cases left with
  | nothing unbounded =>
    cases right with
    | nothing => rfl
    | found member bounded => exact absurd bounded (unbounded _ member)
  | @found p hp boundedp leastp firstp =>
    cases right with
    | nothing unbounded => exact absurd boundedp (unbounded _ hp)
    | @found q hq boundedq leastq firstq =>
      rcases Nat.lt_trichotomy p q with before | rfl | after
      · exact absurd (firstq p hp before boundedp) (leastp q hq)
      · rfl
      · exact absurd (firstp q hq after boundedq) (leastq p hp)

omit [ScoreOrder α] in
/-- Looking at fewer positions does not change the outcome, as long as its position remains. -/
theorem restrict (h : FirstLeast all score nearest) (subset : ∀ position ∈ positions, position ∈ all)
    (kept : nearest = .empty ∨ ∃ position ∈ positions, nearest.closest = some position) :
    FirstLeast positions score nearest := by
  cases h with
  | nothing unbounded => exact .nothing fun other member => unbounded other (subset other member)
  | found member bounded least first =>
    rcases kept with kept | ⟨position, remains, same⟩
    · exact (Option.some_ne_none _ (congrArg closest kept)).elim
    · obtain rfl := Option.some.inj same
      exact .found remains bounded (fun other member => least other (subset other member))
        fun other member => first other (subset other member)

omit [ScoreOrder α] in
/-- An outcome names a position exactly if there is a score below infinity. -/
theorem isSome_iff (h : FirstLeast positions score nearest) :
    nearest.closest.isSome = true ↔ ∃ position ∈ positions, score position < Unbounded.infinity := by
  cases h with
  | nothing unbounded =>
    refine ⟨nofun, ?_⟩
    rintro ⟨position, member, bounded⟩
    exact absurd bounded (unbounded position member)
  | found member bounded => exact ⟨fun _ => ⟨_, member, bounded⟩, fun _ => rfl⟩

omit [ScoreOrder α] in
/-- No score that was looked at is below the outcome. -/
theorem not_lt_of_mem (h : FirstLeast positions score nearest) {position : Nat}
    (member : position ∈ positions) : ¬ score position < nearest.distance := by
  cases h with
  | nothing unbounded => exact unbounded position member
  | found _ _ least => exact least position member

theorem isNumber (h : FirstLeast positions score nearest) : IsNumber nearest.distance := by
  cases h with
  | nothing => exact isNumber_infinity
  | found _ bounded => exact (isNumber_of_lt bounded).1

/-- No outcome is below another whose scores include all of its own. -/
theorem not_lt_of_scores {others : List Nat} {score' : Nat → α} {other : Nearest α}
    (h : FirstLeast positions score nearest) (h' : FirstLeast others score' other)
    (included : ∀ q ∈ others, ∃ p ∈ positions, score p = score' q) :
    ¬ other.distance < nearest.distance := by
  intro lower
  cases h' with
  | nothing =>
    cases h with
    | nothing => exact lt_irrefl _ lower
    | found _ bounded => exact lt_irrefl _ (lt_trans lower bounded)
  | found member bounded =>
    obtain ⟨p, looked, same⟩ := included _ member
    rw [← same] at bounded lower
    cases h with
    | nothing unbounded => exact unbounded p looked bounded
    | found _ _ least => exact least p looked lower

variable {few : Nearest α} (h : FirstLeast all score nearest)
  (hfew : FirstLeast positions score few) (subset : ∀ position ∈ positions, position ∈ all)

include h hfew subset

/-- Fewer positions have no smaller score. -/
theorem not_lt : ¬ few.distance < nearest.distance :=
  h.not_lt_of_scores hfew fun position member => ⟨position, subset position member, rfl⟩

omit [ScoreOrder α] in
/-- Fewer positions have no earlier position of the same score. -/
theorem closest_le (same : ¬ nearest.distance < few.distance) {p q : Nat}
    (hp : nearest.closest = some p) (hq : few.closest = some q) : p ≤ q := by
  cases h with
  | nothing => cases hp
  | found _ _ _ first =>
    cases hfew with
    | nothing => cases hq
    | found member bounded =>
      obtain rfl := Option.some.inj hp
      obtain rfl := Option.some.inj hq
      by_contra after
      exact same (first _ (subset _ member) (Nat.lt_of_not_le after) bounded)

omit [ScoreOrder α] in
/-- The outcome for fewer positions is that for all exactly if these include its position. -/
theorem eq_iff :
    few = nearest ↔ nearest = .empty ∨ ∃ position ∈ positions, nearest.closest = some position := by
  constructor
  · rintro rfl
    cases hfew with
    | nothing => exact .inl rfl
    | found member => exact .inr ⟨_, member, rfl⟩
  · intro kept
    exact hfew.unique (h.restrict subset kept)

end FirstLeast

end KMeansSeeding.Nearest
