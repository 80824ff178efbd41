import KMeansSeeding.Search
import Mathlib.Data.List.Induction
import Mathlib.Data.List.Sort
import Mathlib.Data.Prod.Lex

/-!
# What a shortlist keeps

Candidates stand in the order of distance and then of position. `Divided` is the invariant of a
shortlist: the candidates offered so far are those that it keeps, the worst one first, and others that
are behind them; there are only others if there was no room. One offer preserves it
(`exists_divided_offer`) and so do all offers (`exists_divided_offerAll`). Behind may be meant by distance
alone, or by distance and position if the offers ascend.
-/

namespace KMeansSeeding

open List (Perm Subperm)
open scoped List

namespace Candidate

/-- The place of a candidate in the order of distance and position. -/
def key (candidate : Candidate) : ℕ ×ₗ ℕ :=
  toLex (candidate.hamming, candidate.position)

theorem key_injective : Function.Injective key := by
  rintro ⟨hamming, position⟩ ⟨hamming', position'⟩ same
  obtain ⟨rfl, rfl⟩ := Prod.mk.inj (toLex.injective same)
  rfl

theorem precedes_iff {left right : Candidate} :
    left.precedes right = true ↔ left.key ≤ right.key := by
  simp [precedes, key, Prod.Lex.toLex_le_toLex]

theorem key_lt_of_hamming_lt {left right : Candidate} (closer : left.hamming < right.hamming) :
    left.key < right.key :=
  Prod.Lex.toLex_lt_toLex.mpr (.inl closer)

theorem hamming_le_of_key_le {left right : Candidate} (before : left.key ≤ right.key) :
    left.hamming ≤ right.hamming := by
  rcases Prod.Lex.toLex_le_toLex.mp before with closer | ⟨same, -⟩
  · exact closer.le
  · exact same.le

end Candidate

namespace Shortlist

theorem insert_perm (candidate : Candidate) (kept : List Candidate) :
    Perm (insert candidate kept) (candidate :: kept) := by
  induction kept with
  | nil => exact .refl _
  | cons worst rest ih =>
    rw [insert]
    split
    · exact .refl _
    · exact (ih.cons worst).trans (.swap candidate worst rest)

@[simp] theorem capacity_offer (shortlist : Shortlist) (candidate : Candidate) :
    (shortlist.offer candidate).capacity = shortlist.capacity := by
  rw [offer]
  split
  · rfl
  · split
    · rfl
    · split <;> rfl

theorem capacity_offerAll (shortlist : Shortlist) (candidates : List Candidate) :
    (shortlist.offerAll candidates).capacity = shortlist.capacity := by
  induction candidates generalizing shortlist with
  | nil => rfl
  | cons candidate candidates ih => exact (ih _).trans (capacity_offer shortlist candidate)

theorem offerAll_append_singleton (shortlist : Shortlist) (candidates : List Candidate)
    (candidate : Candidate) :
    shortlist.offerAll (candidates ++ [candidate]) = (shortlist.offerAll candidates).offer candidate := by
  rw [offerAll, List.foldl_append]
  rfl

/-- The worst one first. -/
def WorstFirst (kept : List Candidate) : Prop :=
  kept.Pairwise fun worse better => better.key ≤ worse.key

theorem WorstFirst.insert {kept : List Candidate} (sorted : WorstFirst kept) (candidate : Candidate) :
    WorstFirst (insert candidate kept) := by
  induction kept with
  | nil => exact List.pairwise_singleton _ _
  | cons worst rest ih =>
    obtain ⟨top, below⟩ := List.pairwise_cons.mp sorted
    rw [Shortlist.insert]
    split_ifs with precedes
    · have first : worst.key ≤ candidate.key := Candidate.precedes_iff.mp precedes
      refine List.pairwise_cons.mpr ⟨fun other member => ?_, sorted⟩
      rcases List.mem_cons.mp member with rfl | member
      · exact first
      · exact (top other member).trans first
    · have first : candidate.key ≤ worst.key := by
        rw [Candidate.precedes_iff] at precedes
        exact (le_total _ _).resolve_left precedes
      refine List.pairwise_cons.mpr ⟨fun other member => ?_, ih below⟩
      rcases List.mem_cons.mp ((insert_perm candidate rest).mem_iff.mp member) with rfl | member
      · exact first
      · exact top other member

/-! ## The candidates offered so far -/

/-- The candidates offered so far, divided into those that are kept and others. Those that are kept
are before the others by `R`, and there are only others if there was no room. -/
structure Divided (R : Candidate → Candidate → Prop) (capacity : ℕ)
    (offered others kept : List Candidate) : Prop where
  perm : Perm (kept ++ others) offered
  before : ∀ inside ∈ kept, ∀ other ∈ others, R inside other
  sorted : WorstFirst kept
  length_eq : kept.length = min capacity offered.length

namespace Divided

variable {R : Candidate → Candidate → Prop} {capacity : ℕ} {offered others kept rest : List Candidate}
  {worst : Candidate}

theorem length_add (divided : Divided R capacity offered others kept) :
    kept.length + others.length = offered.length := by
  rw [← List.length_append, divided.perm.length_eq]

theorem subperm (divided : Divided R capacity offered others kept) : Subperm kept offered :=
  (List.sublist_append_left kept others).subperm.trans divided.perm.subperm

theorem perm_append_singleton (divided : Divided R capacity offered others kept)
    (candidate : Candidate) : Perm (kept ++ candidate :: others) (offered ++ [candidate]) :=
  List.perm_middle.trans
    ((divided.perm.cons candidate).trans (List.perm_append_singleton candidate offered).symm)

/-- While there is room there are no others, and the newcomer is kept. -/
theorem accept (divided : Divided R capacity offered others kept) (candidate : Candidate)
    (room : kept.length < capacity) :
    Divided R capacity (offered ++ [candidate]) [] (insert candidate kept) := by
  have total := divided.length_add
  have count := divided.length_eq
  have perm := divided.perm_append_singleton candidate
  -- with room left, all that was offered has been kept
  obtain rfl : others = [] := List.length_eq_zero_iff.mp (by omega)
  refine ⟨?_, nofun, divided.sorted.insert candidate, ?_⟩
  · rw [List.append_nil]
    exact (insert_perm candidate kept).trans
      ((List.perm_append_singleton candidate kept).symm.trans perm)
  · rw [(insert_perm candidate kept).length_eq, List.length_append, List.length_cons,
      List.length_singleton]
    omega

/-- Without room, a newcomer that is behind all of the kept ones joins the others. -/
theorem turnAway (divided : Divided R capacity offered others kept) {candidate : Candidate}
    (full : ¬ kept.length < capacity) (behind : ∀ inside ∈ kept, R inside candidate) :
    Divided R capacity (offered ++ [candidate]) (candidate :: others) kept where
  perm := divided.perm_append_singleton candidate
  before inside hinside := List.forall_mem_cons.mpr ⟨behind inside hinside, divided.before inside hinside⟩
  sorted := divided.sorted
  length_eq := by
    have count := divided.length_eq
    rw [List.length_append]
    omega

/-- Without room, a newcomer that is closer than the worst takes its place. -/
theorem replace [IsTrans Candidate R] (divided : Divided R capacity offered others (worst :: rest))
    {candidate : Candidate} (full : ¬ (worst :: rest).length < capacity)
    (of_key_le : ∀ {left right : Candidate}, left.key ≤ right.key → R left right)
    (closer : candidate.hamming < worst.hamming) :
    Divided R capacity (offered ++ [candidate]) (worst :: others) (insert candidate rest) := by
  obtain ⟨top, below⟩ := List.pairwise_cons.mp divided.sorted
  have first : R candidate worst := of_key_le (Candidate.key_lt_of_hamming_lt closer).le
  refine ⟨?_, fun inside member => ?_, WorstFirst.insert below candidate, ?_⟩
  · calc insert candidate rest ++ worst :: others
      _ ~ (candidate :: rest) ++ worst :: others := (insert_perm candidate rest).append_right _
      _ ~ worst :: rest ++ candidate :: others := by
        refine (List.perm_middle.cons candidate).trans ((Perm.swap worst candidate _).trans ?_)
        exact List.perm_middle.symm.cons worst
      _ ~ offered ++ [candidate] := divided.perm_append_singleton candidate
  · refine List.forall_mem_cons.mpr ?_
    rcases List.mem_cons.mp ((insert_perm candidate rest).mem_iff.mp member) with rfl | member
    · exact ⟨first, fun other hother => IsTrans.trans _ worst _ first
        (divided.before worst List.mem_cons_self other hother)⟩
    · exact ⟨of_key_le (top inside member), divided.before inside (List.mem_cons_of_mem worst member)⟩
  · have count := divided.length_eq
    rw [(insert_perm candidate rest).length_eq, List.length_append]
    rw [List.length_cons] at count full ⊢
    omega

end Divided

section Offers

variable {R : Candidate → Candidate → Prop} [IsTrans Candidate R]
  (of_key_le : ∀ {left right : Candidate}, left.key ≤ right.key → R left right)

include of_key_le

/-- One more offer divides what was offered anew, as long as a newcomer is behind all candidates that
are no farther than it. -/
theorem exists_divided_offer {offered others : List Candidate} {shortlist : Shortlist} {capacity : ℕ}
    (room : shortlist.capacity = capacity)
    (divided : Divided R capacity offered others shortlist.kept) {candidate : Candidate}
    (later : ∀ inside ∈ shortlist.kept, inside.hamming ≤ candidate.hamming → R inside candidate) :
    ∃ others, Divided R capacity (offered ++ [candidate]) others (shortlist.offer candidate).kept := by
  obtain ⟨_, kept⟩ := shortlist
  obtain rfl := room
  dsimp only at divided later
  rw [offer]
  dsimp only
  split_ifs with room
  · exact ⟨_, divided.accept candidate room⟩
  · cases kept with
    | nil => exact ⟨_, divided.turnAway room nofun⟩
    | cons worst rest =>
      dsimp only
      split_ifs with closer
      · exact ⟨_, divided.replace room of_key_le closer⟩
      · -- the newcomer is no closer than the worst, so no closer than any
        refine ⟨_, divided.turnAway room fun inside member => later inside member ?_⟩
        obtain ⟨top, -⟩ := List.pairwise_cons.mp divided.sorted
        refine le_trans ?_ (Nat.le_of_not_lt closer)
        rcases List.mem_cons.mp member with rfl | member
        · exact le_rfl
        · exact Candidate.hamming_le_of_key_le (top inside member)

/-- After offers in an order in which a later candidate is behind all that are no farther than it,
those that are kept are before all others. -/
theorem exists_divided_offerAll {candidates : List Candidate}
    (ordered : candidates.Pairwise fun earlier later => earlier.hamming ≤ later.hamming → R earlier later)
    (capacity : ℕ) :
    ∃ others, Divided R capacity candidates others ((empty capacity).offerAll candidates).kept := by
  -- the latest offer is the last candidate, so the induction is from the end
  induction candidates using List.reverseRecOn with
  | nil => exact ⟨[], .refl _, nofun, List.Pairwise.nil, (Nat.min_zero capacity).symm⟩
  | append_singleton candidates candidate ih =>
    rw [List.pairwise_append] at ordered
    obtain ⟨others, divided⟩ := ih ordered.1
    rw [offerAll_append_singleton]
    refine exists_divided_offer of_key_le (capacity_offerAll (empty capacity) candidates) divided
      fun inside member => ?_
    exact ordered.2.2 inside (divided.perm.subset (List.mem_append_left _ member)) candidate
      (List.mem_singleton_self candidate)

end Offers

/-- If positions ascend, all that is kept comes before all that is turned away, by distance and position. -/
theorem exists_divided_of_ascending {offers : List Candidate}
    (ascending : offers.Pairwise fun earlier later => earlier.position < later.position)
    (capacity : ℕ) :
    ∃ others, Divided (fun left right => left.key ≤ right.key) capacity offers others
      ((empty capacity).offerAll offers).kept := by
  have : IsTrans Candidate fun left right => left.key ≤ right.key := ⟨fun _ _ _ => le_trans⟩
  refine exists_divided_offerAll id (ascending.imp ?_) capacity
  intro earlier later before closer
  exact Prod.Lex.toLex_le_toLex'.mpr ⟨closer, fun _ => before.le⟩

/-- Whatever the order of the offers, a candidate that is turned away is no closer than any that is
kept. -/
theorem exists_divided_by_hamming (offers : List Candidate) (capacity : ℕ) :
    ∃ others, Divided (fun left right => left.hamming ≤ right.hamming) capacity offers others
      ((empty capacity).offerAll offers).kept := by
  have : IsTrans Candidate fun left right => left.hamming ≤ right.hamming := ⟨fun _ _ _ => le_trans⟩
  exact exists_divided_offerAll Candidate.hamming_le_of_key_le
    (List.pairwise_of_forall fun _ _ => id) capacity

/-- Candidates that are divided by their order and all different: one is kept exactly if the number of
those before it is below the capacity. -/
theorem Divided.mem_kept_iff {capacity : ℕ} {offered others kept : List Candidate}
    (divided : Divided (fun left right => left.key ≤ right.key) capacity offered others kept)
    (different : offered.Nodup) {candidate : Candidate} :
    candidate ∈ kept ↔
      candidate ∈ offered ∧ offered.countP (fun other => other.key < candidate.key) < capacity := by
  have count := divided.length_eq
  have total := divided.length_add
  have apart : kept.Disjoint others :=
    (List.nodup_append'.mp (divided.perm.nodup_iff.mpr different)).2.2
  rw [← divided.perm.mem_iff, ← divided.perm.countP_eq, List.countP_append, List.mem_append]
  constructor
  · intro member
    -- the others are not before it, and neither is it itself
    have none : others.countP (fun other => other.key < candidate.key) = 0 := by
      refine List.countP_eq_zero.mpr fun other hother => ?_
      simpa using divided.before candidate member other hother
    have fewer : kept.countP (fun other => other.key < candidate.key) < kept.length := by
      refine lt_of_le_of_ne List.countP_le_length fun all => ?_
      have itself := List.countP_eq_length.mp all candidate member
      simp at itself
    exact ⟨.inl member, by omega⟩
  · rintro ⟨member | member, below⟩
    · exact member
    · -- all that are kept are before it, and they take up all the room
      have all : kept.countP (fun other => other.key < candidate.key) = kept.length := by
        refine List.countP_eq_length.mpr fun inside hinside => decide_eq_true ?_
        refine lt_of_le_of_ne (divided.before inside hinside candidate member) fun same => ?_
        exact apart hinside (Candidate.key_injective same ▸ member)
      have some : 0 < others.length := List.length_pos_of_mem member
      omega

end Shortlist

end KMeansSeeding
