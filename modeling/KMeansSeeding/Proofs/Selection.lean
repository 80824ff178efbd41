import KMeansSeeding.Proofs.Ranking
import Mathlib.Data.List.Permutation

/-!
# A shortlist is the front of a sort

At every moment a shortlist holds as many of the offers so far as there is room for. If positions are
offered in ascending order, those are the first ones of the offers sorted stably by distance, which is
the order of distance and position (`offerAll_selects`). In any other order of positions the shortlist
depends on the order of the offers. But the distances that it holds are still the smallest ones, and
whatever is closer than some candidate on the shortlist is on the shortlist itself
(`offerAll_keeps_closest`).

Both are read off `Divided`: what comes before all others is the front of the sorted whole
(`take_mergeSort`).
-/

namespace KMeansSeeding

open List (Perm Subperm)

/-- If all of the front is before all of the back, sorting both together puts the front first. -/
theorem take_mergeSort {α β : Type} [LinearOrder β] {key : α → β} (injective : key.Injective)
    {front back all : List α} (perm : Perm (front ++ back) all)
    (before : ∀ a ∈ front, ∀ b ∈ back, key a ≤ key b) :
    (all.mergeSort fun a b => key a ≤ key b).take front.length
      = front.mergeSort fun a b => key a ≤ key b := by
  have sorted (items : List α) :
      (items.mergeSort fun a b => key a ≤ key b).Pairwise fun a b => key a ≤ key b := by
    have pairwise := @List.pairwise_mergeSort α (fun a b => key a ≤ key b)
      (fun a b c => by simpa using le_trans) (fun a b => by simpa using le_total (key a) (key b)) items
    simpa only [decide_eq_true_eq] using pairwise
  have split : (all.mergeSort fun a b => key a ≤ key b)
      = (front.mergeSort fun a b => key a ≤ key b) ++ back.mergeSort fun a b => key a ≤ key b := by
    refine List.Perm.eq_of_pairwise (fun a b _ _ ab ba => injective (le_antisymm ab ba)) (sorted all)
      (List.pairwise_append.mpr ⟨sorted front, sorted back, fun a ha b hb => ?_⟩) ?_
    · exact before a (List.mem_mergeSort.mp ha) b (List.mem_mergeSort.mp hb)
    · exact (List.mergeSort_perm _ _).trans
        (perm.symm.trans ((List.mergeSort_perm _ _).append (List.mergeSort_perm _ _)).symm)
  rw [split]
  exact List.take_left' (List.length_mergeSort front)

namespace Candidate

/-- The order of distance alone, which leaves candidates of one distance as they stand. -/
def noFarther (left right : Candidate) : Bool :=
  left.hamming ≤ right.hamming

theorem precedes_eq : precedes = fun left right => decide (left.key ≤ right.key) := by
  funext left right
  rw [Bool.eq_iff_iff, precedes_iff, decide_eq_true_iff]

/-- In offers of ascending positions, an earlier place is a smaller position. -/
theorem le_iff_position_le {offers : List Candidate}
    (ascending : offers.Pairwise fun earlier later => earlier.position < later.position) {i j : ℕ}
    {left right : Candidate} (hleft : offers[i]? = some left) (hright : offers[j]? = some right) :
    i ≤ j ↔ left.position ≤ right.position := by
  obtain ⟨hi, rfl⟩ := List.getElem?_eq_some_iff.mp hleft
  obtain ⟨hj, rfl⟩ := List.getElem?_eq_some_iff.mp hright
  rw [List.pairwise_iff_getElem] at ascending
  rcases Nat.lt_trichotomy i j with before | rfl | after
  · exact iff_of_true before.le (ascending i j hi hj before).le
  · exact iff_of_true le_rfl le_rfl
  · exact iff_of_false after.not_ge (ascending j i hj hi after).not_ge

/-- Sorting offers of ascending positions stably by distance sorts them by distance and position. -/
theorem mergeSort_noFarther {offers : List Candidate}
    (ascending : offers.Pairwise fun earlier later => earlier.position < later.position) :
    offers.mergeSort noFarther = offers.mergeSort precedes := by
  -- a stable sort is a sort by distance and then by place
  have places : ∀ a ∈ offers.zipIdx, ∀ b ∈ offers.zipIdx,
      List.zipIdxLE noFarther a b = precedes a.1 b.1 := by
    rintro ⟨left, i⟩ hleft ⟨right, j⟩ hright
    rw [List.mem_zipIdx_iff_getElem?] at hleft hright
    have order := le_iff_position_le ascending hleft hright
    simp only [List.zipIdxLE, noFarther, precedes, order]
    grind
  rw [← List.mergeSort_zipIdx, List.map_mergeSort places, List.zipIdx_map_fst]

end Candidate

namespace Shortlist

section Offers

variable {offers : List Candidate} {count : ℕ}

/-- A shortlist holds as many of the offers so far as there is room for. -/
theorem length_kept_offerAll (capacity : ℕ) (inside : count ≤ offers.length) :
    ((empty capacity).offerAll (offers.take count)).kept.length = min capacity count := by
  obtain ⟨others, divided⟩ := exists_divided_by_hamming (offers.take count) capacity
  rw [divided.length_eq, List.length_take_of_le inside]

/-- After each offer of ascending positions, a shortlist holds the positions of the first offers so far
in a stable sort by distance, or, what is the same, in a sort by distance and position. The number of
candidates that it was told to expect makes no difference if it comes into being, and it does so if there
can be storage for as many as it is to keep. -/
theorem offerAll_selects {capacity expected : ℕ}
    (room : Candidate.Storable (min capacity expected))
    (ascending : offers.Pairwise fun earlier later => earlier.position < later.position)
    (inside : count ≤ offers.length) :
    ∃ start, sized capacity expected = .ok start ∧
      (∀ another other, sized capacity another = .ok other → other = start) ∧
      let shortlist := start.offerAll (offers.take count)
      let selected := ((offers.take count).mergeSort Candidate.noFarther).take (min capacity count)
      shortlist.size = min capacity count ∧
        shortlist.positions.Pairwise (· < ·) ∧
        Perm shortlist.positions (selected.map (·.position)) ∧
        selected = ((offers.take count).mergeSort Candidate.precedes).take (min capacity count) := by
  refine ⟨empty capacity, sized_eq_ok_iff.mpr ⟨room, rfl⟩,
    fun another other made => (sized_eq_ok_iff.mp made).2, ?_⟩
  intro shortlist selected
  have ordered := ascending.sublist (List.take_sublist count offers)
  obtain ⟨others, divided⟩ := exists_divided_of_ascending ordered capacity
  have size : shortlist.kept.length = min capacity count :=
    length_kept_offerAll capacity inside
  have stable := Candidate.mergeSort_noFarther ordered
  have front : selected = shortlist.kept.mergeSort Candidate.precedes := by
    simp only [selected, stable, Candidate.precedes_eq, ← size]
    exact take_mergeSort Candidate.key_injective divided.perm divided.before
  have distinct : (shortlist.kept.map (·.position)).Nodup := by
    have all : ((offers.take count).map (·.position)).Nodup :=
      List.pairwise_map.mpr (ordered.imp Nat.ne_of_lt)
    obtain ⟨some, same, sublist⟩ := divided.subperm
    exact (same.map _).nodup_iff.mp (all.sublist (sublist.map _))
  refine ⟨size, ?_, ?_, ?_⟩
  · have different := (positions_perm shortlist).nodup_iff.mpr distinct
    exact ((positions_pairwise_le shortlist).and different).imp fun h => lt_of_le_of_ne h.1 h.2
  · rw [front]
    exact (positions_perm shortlist).trans ((List.mergeSort_perm _ _).map _).symm
  · rw [← stable]

/-- Of the first three offers, two tie for the last place of a shortlist of two, and the earlier one has
it. The fourth offer is not made. That more candidates were expected than there are numbers of 64 bits
takes no storage. -/
theorem offerAll_selects_earlier_tie :
    let offers : List Candidate := [⟨3, 0⟩, ⟨3, 4⟩, ⟨1, 7⟩, ⟨0, 9⟩]
    let selected := ((offers.take 3).mergeSort Candidate.noFarther).take 2
    Candidate.Storable (min 2 (Nat.pow 2 64)) ∧
      offers.Pairwise (fun earlier later => earlier.position < later.position) ∧ 3 ≤ offers.length ∧
      selected.map (·.position) = [7, 0] ∧
      ∃ start, sized 2 (Nat.pow 2 64) = .ok start ∧
        (∀ another other, sized 2 another = .ok other → other = start) ∧
        let shortlist := start.offerAll (offers.take 3)
        shortlist.size = 2 ∧ shortlist.positions.Pairwise (· < ·) ∧
          Perm shortlist.positions (selected.map (·.position)) ∧
          selected = ((offers.take 3).mergeSort Candidate.precedes).take 2 := by
  intro offers selected
  have room : Candidate.Storable (min 2 (Nat.pow 2 64)) := by decide
  have ascending : offers.Pairwise fun earlier later => earlier.position < later.position := by decide
  have first : selected.map (·.position) = [7, 0] := by
    simp only [selected, offers]
    cbv
  exact ⟨room, ascending, by decide, first, offerAll_selects room ascending (by decide)⟩

/-- A shortlist of the greatest capacity that expects just as many candidates cannot be made, so there is
none that is empty before the first offer. Of the same capacity there is one that expects no candidate. -/
theorem sized_without_room :
    let greatest := Nat.pow 2 64 - 1
    sized greatest greatest = .error .capacityOverflow ∧
      (¬∃ start, sized greatest greatest = .ok start ∧ (start.offerAll []).size = min greatest 0) ∧
      ∃ start, sized greatest 0 = .ok start ∧ (start.offerAll []).size = min greatest 0 := by
  intro greatest
  have overflow : sized greatest greatest = .error .capacityOverflow := by decide
  refine ⟨overflow, ?_, empty greatest, sized_zero greatest, (Nat.min_zero greatest).symm⟩
  rintro ⟨start, made, -⟩
  cases overflow.symm.trans made

/-- After each offer, in whatever order positions come and however often, a shortlist holds as many of
the offers so far as there is room for, their distances are the smallest ones, and an offer that is
closer than some candidate on the shortlist is there as often as it was made. That is so of every
shortlist that comes into being, and of each capacity there is one. -/
theorem offerAll_keeps_closest (capacity : ℕ) (inside : count ≤ offers.length) :
    (∃ start, sized capacity 0 = .ok start) ∧
      ∀ expected start, sized capacity expected = .ok start →
        let offered := offers.take count
        let shortlist := start.offerAll offered
        shortlist.size = min capacity count ∧
          Perm shortlist.positions (shortlist.kept.map (·.position)) ∧
          Subperm shortlist.kept offered ∧
          (shortlist.kept.map (·.hamming)).mergeSort
            = (offered.map (·.hamming)).mergeSort.take (min capacity count) ∧
          ∀ worst ∈ shortlist.kept, ∀ candidate, candidate.hamming < worst.hamming →
            shortlist.kept.count candidate = offered.count candidate := by
  refine ⟨⟨_, sized_zero capacity⟩, ?_⟩
  intro expected start made offered shortlist
  obtain ⟨-, rfl⟩ := sized_eq_ok_iff.mp made
  obtain ⟨others, divided⟩ : ∃ others, Divided (fun left right => left.hamming ≤ right.hamming)
      capacity offered others shortlist.kept := exists_divided_by_hamming offered capacity
  have size : shortlist.kept.length = min capacity count :=
    length_kept_offerAll capacity inside
  refine ⟨size, positions_perm shortlist, divided.subperm, ?_, ?_⟩
  · have perm : Perm (shortlist.kept.map (·.hamming) ++ others.map (·.hamming))
        (offered.map (·.hamming)) := by
      rw [← List.map_append]
      exact divided.perm.map _
    have before : ∀ a ∈ shortlist.kept.map (·.hamming), ∀ b ∈ others.map (·.hamming), a ≤ b := by
      simpa only [List.forall_mem_map] using divided.before
    have front := take_mergeSort Function.injective_id perm before
    rw [List.length_map, size] at front
    exact front.symm
  · intro worst member candidate closer
    -- an offer that was turned away is no closer than any candidate on the shortlist
    have kept : others.count candidate = 0 := by
      rw [List.count_eq_zero]
      intro turned
      exact absurd closer (Nat.not_lt.mpr (divided.before worst member candidate turned))
    rw [← divided.perm.count_eq, List.count_append, kept, Nat.add_zero]

/-- Positions descend, and one of them is offered twice at a distance for which there is one place
left. -/
theorem offerAll_keeps_closest_repeated :
    let offers : List Candidate := [⟨2, 5⟩, ⟨2, 5⟩, ⟨2, 3⟩, ⟨1, 0⟩, ⟨0, 0⟩]
    let shortlist := (empty 2).offerAll (offers.take 4)
    4 ≤ offers.length ∧ shortlist.kept = [⟨2, 5⟩, ⟨1, 0⟩] ∧ sized 2 9 = .ok (empty 2) ∧
      shortlist.size = 2 ∧
      Perm shortlist.positions (shortlist.kept.map (·.position)) ∧
      Subperm shortlist.kept (offers.take 4) ∧
      (shortlist.kept.map (·.hamming)).mergeSort
        = ((offers.take 4).map (·.hamming)).mergeSort.take 2 ∧
      ∀ worst ∈ shortlist.kept, ∀ candidate, candidate.hamming < worst.hamming →
        shortlist.kept.count candidate = (offers.take 4).count candidate := by
  intro offers shortlist
  have made : sized 2 9 = .ok (empty 2) := by decide
  exact ⟨by decide, by decide, made, (offerAll_keeps_closest 2 (by decide)).2 9 _ made⟩

end Offers

end Shortlist

end KMeansSeeding
