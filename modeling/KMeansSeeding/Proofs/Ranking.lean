import KMeansSeeding.Proofs.Shortlisting

/-!
# The positions of a shortlist

The rank of a position is the number of positions that come before it, by their distances and then by
themselves. A position is shortlisted exactly if its rank is below the capacity
(`mem_positions_ofDistances_iff`), so a shortlist holds the leading positions (`Leading`), as many as there
is room for.
-/

namespace KMeansSeeding

open List (Perm Subperm)

namespace Shortlist

/-! ## Offering the positions of some distances -/

theorem positions_candidatesAt (distances : List Nat) :
    (candidatesAt distances).map (·.position) = List.range distances.length := by
  rw [candidatesAt, List.map_map, List.range_eq_range']
  exact List.zipIdx_map_snd 0 distances

theorem positions_perm (shortlist : Shortlist) :
    Perm shortlist.positions (shortlist.kept.map (·.position)) :=
  List.mergeSort_perm _ _

theorem positions_pairwise_le (shortlist : Shortlist) :
    shortlist.positions.Pairwise (· ≤ ·) := by
  have sorted : ((shortlist.kept.map (·.position)).mergeSort).Pairwise fun a b => decide (a ≤ b) :=
    List.pairwise_mergeSort (by simp only [decide_eq_true_eq]; omega)
      (by simp only [Bool.or_eq_true, decide_eq_true_eq]; omega) _
  simpa only [positions, decide_eq_true_eq] using sorted

/-- The candidates of a list of distances, by position. -/
theorem candidatesAt_eq_map (distances : List ℕ) :
    candidatesAt distances
      = (List.range distances.length).map fun position => ⟨distances.getD position 0, position⟩ := by
  refine List.ext_getElem? fun position => ?_
  rw [candidatesAt, List.getElem?_map, List.getElem?_zipIdx, Nat.zero_add, List.getElem?_map]
  rcases Nat.lt_or_ge position distances.length with inside | outside
  · rw [List.getElem?_range inside, Option.map_some, List.getD_eq_getElem?_getD,
      List.getElem?_eq_getElem inside]
    rfl
  · rw [List.getElem?_eq_none outside, List.getElem?_eq_none (by simpa using outside)]
    rfl

theorem candidatesAt_ascending (distances : List ℕ) :
    (candidatesAt distances).Pairwise fun earlier later => earlier.position < later.position := by
  rw [← List.pairwise_map, positions_candidatesAt]
  exact List.pairwise_lt_range

/-- The candidates of a list of distances are divided by their order. -/
theorem exists_divided_ofDistances (capacity : ℕ) (distances : List ℕ) :
    ∃ others, Divided (fun left right => left.key ≤ right.key) capacity (candidatesAt distances) others
      (ofDistances capacity distances).kept :=
  exists_divided_of_ascending (candidatesAt_ascending distances) capacity

/-- A shortlist of distances keeps some of their positions, in ascending order. -/
theorem positions_ofDistances_sublist (capacity : ℕ) (distances : List ℕ) :
    (ofDistances capacity distances).positions.Sublist (List.range distances.length) := by
  obtain ⟨others, divided⟩ := exists_divided_ofDistances capacity distances
  have subperm : Subperm (ofDistances capacity distances).positions
      (List.range distances.length) := by
    rw [← positions_candidatesAt]
    obtain ⟨some, same, sublist⟩ := divided.subperm
    exact ((positions_perm _).trans (same.map _).symm).subperm.trans (sublist.map _).subperm
  -- both lists ascend, so a part of the other up to order is a sublist of it
  exact List.sublist_of_subperm_of_pairwise subperm (positions_pairwise_le _)
    (List.pairwise_lt_range.imp Nat.le_of_lt)

theorem positions_ofDistances_ascending (capacity : ℕ) (distances : List ℕ) :
    (ofDistances capacity distances).positions.Pairwise (· < ·) :=
  List.pairwise_lt_range.sublist (positions_ofDistances_sublist capacity distances)

theorem length_positions_ofDistances (capacity : ℕ) (distances : List ℕ) :
    (ofDistances capacity distances).positions.length = min capacity distances.length := by
  obtain ⟨others, divided⟩ := exists_divided_ofDistances capacity distances
  rw [(positions_perm _).length_eq, List.length_map, divided.length_eq, candidatesAt, List.length_map,
    List.length_zipIdx]

/-- A shortlist with room for all distances keeps all their positions. -/
theorem positions_ofDistances_eq_range {capacity : ℕ} {distances : List ℕ}
    (room : distances.length ≤ capacity) :
    (ofDistances capacity distances).positions = List.range distances.length := by
  refine (positions_ofDistances_sublist capacity distances).eq_of_length ?_
  rw [length_positions_ofDistances, List.length_range, min_eq_right room]

/-- A shortlist of positive capacity keeps one of some distances at least. -/
theorem positions_ofDistances_ne_nil {capacity : ℕ} {distances : List ℕ} (room : 0 < capacity)
    (some : distances ≠ []) : (ofDistances capacity distances).positions ≠ [] := by
  rw [← List.length_pos_iff, length_positions_ofDistances]
  exact lt_min room (List.length_pos_iff.mpr some)

/-! ## The rank of a position -/

/-- The place of a position, by its distance and then by itself. -/
def place (distances : List ℕ) (position : ℕ) : ℕ ×ₗ ℕ :=
  toLex (distances.getD position 0, position)

/-- How many positions come before one. -/
def rank (distances : List ℕ) (position : ℕ) : ℕ :=
  (List.range distances.length).countP fun other => place distances other < place distances position

section Ranks

variable {distances : List ℕ} {capacity position other : ℕ}

/-- A position is shortlisted exactly if fewer positions come before it than there is room for. -/
theorem mem_positions_ofDistances_iff :
    position ∈ (ofDistances capacity distances).positions ↔
      position < distances.length ∧ rank distances position < capacity := by
  obtain ⟨others, divided⟩ := exists_divided_ofDistances capacity distances
  have different : (candidatesAt distances).Nodup :=
    (candidatesAt_ascending distances).imp fun before same => Nat.ne_of_lt before (congrArg _ same)
  have kept : ∀ candidate, candidate ∈ (ofDistances capacity distances).kept ↔
      candidate ∈ candidatesAt distances ∧ rank distances candidate.position < capacity := by
    intro candidate
    rw [divided.mem_kept_iff different]
    refine and_congr_right fun member => ?_
    rw [candidatesAt_eq_map] at member ⊢
    obtain ⟨position, -, rfl⟩ := List.mem_map.mp member
    rw [List.countP_map]
    rfl
  rw [(positions_perm _).mem_iff, List.mem_map]
  simp only [kept, candidatesAt_eq_map, List.mem_map, List.mem_range]
  constructor
  · rintro ⟨_, ⟨⟨position, inside, rfl⟩, few⟩, rfl⟩
    exact ⟨inside, few⟩
  · rintro ⟨inside, few⟩
    exact ⟨_, ⟨⟨position, inside, rfl⟩, few⟩, rfl⟩

/-- A position of a lower rank comes before. -/
theorem place_lt_of_rank_lt (lower : rank distances position < rank distances other) :
    place distances position < place distances other := by
  by_contra after
  -- whatever comes before `other` then comes before `position` too
  refine Nat.not_le_of_lt lower (List.countP_mono_left fun between _ before => ?_)
  simp only [decide_eq_true_eq] at before ⊢
  exact before.trans_le (not_lt.mp after)

/-- Before a position at distance zero there are only earlier ones at distance zero. -/
theorem rank_of_zero (zero : distances[position]? = some 0) :
    rank distances position
      = (List.range position).countP fun earlier => distances[earlier]? = some 0 := by
  obtain ⟨inside, -⟩ := List.getElem?_eq_some_iff.mp zero
  obtain ⟨more, split⟩ := Nat.exists_eq_add_of_le inside.le
  have before : ∀ other, place distances other < place distances position ↔
      distances.getD other 0 = 0 ∧ other < position := by
    intro other
    rw [place, place, Prod.Lex.toLex_lt_toLex, List.getD_eq_getElem?_getD (i := position), zero]
    simp
  -- from the position on, none comes before it: no distance is below zero
  have later : ((List.range more).map (position + ·)).countP
      (fun other => place distances other < place distances position) = 0 := by
    rw [List.countP_map, List.countP_eq_zero]
    intro distance _
    simp [before]
  rw [rank, split, List.range_add, List.countP_append, later, Nat.add_zero]
  refine List.countP_congr fun earlier member => ?_
  have order : earlier < position := List.mem_range.mp member
  simp only [decide_eq_true_eq, before, order, and_true]
  rw [List.getD_eq_getElem?_getD, List.getElem?_eq_getElem (order.trans inside)]
  simp

end Ranks

/-- Positions that lead by their distances: as many as there is room for, in ascending order, and each
of them before every other position. -/
structure Leading (capacity : ℕ) (distances : List ℕ) (positions : List ℕ) : Prop where
  ascending : positions.Pairwise (· < ·)
  length_eq : positions.length = min capacity distances.length
  inside : ∀ position ∈ positions, position < distances.length
  before : ∀ position ∈ positions, ∀ other < distances.length, other ∉ positions →
    place distances position < place distances other

theorem leading_ofDistances (capacity : ℕ) (distances : List ℕ) :
    Leading capacity distances (ofDistances capacity distances).positions where
  ascending := positions_ofDistances_ascending capacity distances
  length_eq := length_positions_ofDistances capacity distances
  inside _ member := (mem_positions_ofDistances_iff.mp member).1
  before position member other inside outside := by
    have low := (mem_positions_ofDistances_iff.mp member).2
    rw [mem_positions_ofDistances_iff] at outside
    refine place_lt_of_rank_lt (low.trans_le ?_)
    exact Nat.le_of_not_lt fun few => outside ⟨inside, few⟩

/-- With more room, all positions of a shortlist are shortlisted. -/
theorem positions_ofDistances_subset {capacity more : ℕ} (room : capacity ≤ more)
    (distances : List ℕ) :
    (ofDistances capacity distances).positions ⊆ (ofDistances more distances).positions := by
  intro position member
  rw [mem_positions_ofDistances_iff] at member ⊢
  exact ⟨member.1, member.2.trans_le room⟩

end Shortlist

namespace Sketch

variable (query : Sketch) (sketches : List Sketch) (samples : Nat)

theorem shortlist_sublist :
    (query.shortlist sketches samples).positions.Sublist (List.range sketches.length) := by
  simpa [shortlist] using Shortlist.positions_ofDistances_sublist samples (sketches.map query.hamming)

theorem leading_shortlist :
    Shortlist.Leading samples (sketches.map query.hamming)
      (query.shortlist sketches samples).positions :=
  Shortlist.leading_ofDistances samples _

variable {sketches samples}

theorem shortlist_ne_nil (room : 0 < samples) (some : sketches ≠ []) :
    (query.shortlist sketches samples).positions ≠ [] := by
  have distances : sketches.map query.hamming ≠ [] := by simpa using some
  simpa [shortlist] using Shortlist.positions_ofDistances_ne_nil room distances

theorem shortlist_eq_range (room : sketches.length ≤ samples) :
    (query.shortlist sketches samples).positions = List.range sketches.length := by
  have fits : (sketches.map query.hamming).length ≤ samples := by
    rwa [List.length_map]
  simpa [shortlist] using Shortlist.positions_ofDistances_eq_range fits

theorem shortlist_subset {more : Nat} (room : samples ≤ more) :
    (query.shortlist sketches samples).positions ⊆ (query.shortlist sketches more).positions :=
  Shortlist.positions_ofDistances_subset room _

end Sketch

end KMeansSeeding
