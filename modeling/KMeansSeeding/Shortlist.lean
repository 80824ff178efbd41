import KMeansSeeding.Breach

/-!
# Bounded shortlists

A shortlist keeps the best few of a stream of candidates by Hamming distance. While it has room it
takes every candidate; once full it takes only one that is strictly closer than its worst, and drops
that worst. The worst is the candidate of largest distance and, among equals, of latest position. So
earlier positions win ties both on entry and on eviction.

A shortlist that is told how many candidates to expect sets storage aside for those it can keep. That is
all the number does, but it can be too large for any storage; then there is no shortlist.
-/

namespace KMeansSeeding

/-- A position offered for the shortlist, with its Hamming distance to the query. -/
structure Candidate where
  hamming : Nat
  position : Nat
  deriving DecidableEq, Repr

namespace Candidate

/-- The bytes that a candidate takes in storage. -/
def bytes : Nat :=
  16

/-- Whether storage in one piece, which has less than `2 ^ 63` bytes, can hold a number of candidates. It
can hold all numbers below `2 ^ 59`. -/
def Storable (count : Nat) : Prop :=
  count * bytes < Nat.pow 2 63

instance (count : Nat) : Decidable (Storable count) :=
  inferInstanceAs (Decidable (count * bytes < Nat.pow 2 63))

/-- By distance, then by position. -/
def precedes (left right : Candidate) : Bool :=
  left.hamming < right.hamming ||
    (left.hamming == right.hamming && left.position ≤ right.position)

end Candidate

/-- At most `capacity` candidates, the worst one first. -/
structure Shortlist where
  capacity : Nat
  kept : List Candidate
  deriving DecidableEq, Repr

namespace Shortlist

/-- An empty shortlist. -/
def empty (capacity : Nat) : Shortlist :=
  ⟨capacity, []⟩

/-- An empty shortlist for a stream of some number of candidates. Storage is set aside for as many of
them as it can keep; that there is as much memory is taken for granted. -/
def sized (capacity candidates : Nat) : Except Breach Shortlist :=
  if Candidate.Storable (min capacity candidates) then .ok (empty capacity)
  else .error .capacityOverflow

/-- Puts a candidate in its place in a list with the worst one first. -/
def insert (candidate : Candidate) : List Candidate → List Candidate
  | [] => [candidate]
  | worst :: rest =>
    if worst.precedes candidate then candidate :: worst :: rest
    else worst :: insert candidate rest

/-- Offers one more candidate. -/
def offer (shortlist : Shortlist) (candidate : Candidate) : Shortlist :=
  if shortlist.kept.length < shortlist.capacity then
    { shortlist with kept := insert candidate shortlist.kept }
  else
    match shortlist.kept with
    | [] => shortlist
    | worst :: rest =>
      if candidate.hamming < worst.hamming then { shortlist with kept := insert candidate rest }
      else shortlist

/-- Offers candidates in order. -/
def offerAll (shortlist : Shortlist) (candidates : List Candidate) : Shortlist :=
  candidates.foldl offer shortlist

/-- The number of kept candidates. -/
def size (shortlist : Shortlist) : Nat :=
  shortlist.kept.length

/-- The kept positions in ascending order. -/
def positions (shortlist : Shortlist) : List Nat :=
  (shortlist.kept.map (·.position)).mergeSort

/-- Candidates at positions 0, 1, 2, ..., given by their Hamming distances. -/
def candidatesAt (distances : List Nat) : List Candidate :=
  distances.zipIdx.map fun (hamming, position) => ⟨hamming, position⟩

/-- The shortlist for the sketches at positions 0, 1, 2, ..., given their Hamming distances. It expects as
many candidates as there are sketches. These are in storage, where a sketch takes more bytes than a
candidate, so there is room for the candidates too (`sized_of_stored`). -/
def ofDistances (capacity : Nat) (distances : List Nat) : Shortlist :=
  (empty capacity).offerAll (candidatesAt distances)

/-- A shortlist comes into being exactly if storage can hold what it is to keep, and is empty then. -/
theorem sized_eq_ok_iff {capacity candidates : Nat} {start : Shortlist} :
    sized capacity candidates = .ok start ↔
      Candidate.Storable (min capacity candidates) ∧ start = empty capacity := by
  unfold sized
  split <;> simp_all [eq_comm]

theorem sized_zero (capacity : Nat) : sized capacity 0 = .ok (empty capacity) := by
  refine sized_eq_ok_iff.mpr ⟨?_, rfl⟩
  rw [Nat.min_zero]
  decide

theorem sized_of_stored (capacity : Nat) {distances : List Nat}
    (stored : Candidate.Storable distances.length) :
    (sized capacity distances.length).map (·.offerAll (candidatesAt distances))
      = .ok (ofDistances capacity distances) := by
  have room : Candidate.Storable (min capacity distances.length) :=
    Nat.lt_of_le_of_lt (Nat.mul_le_mul_right _ (Nat.min_le_right _ _)) stored
  rw [sized_eq_ok_iff.mpr ⟨room, rfl⟩]
  rfl

end Shortlist

end KMeansSeeding
