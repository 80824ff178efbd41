import KMeansSeeding.Point
import KMeansSeeding.Proofs.Promises
import KMeansSeeding.Proofs.Sums
import Mathlib.Algebra.BigOperators.Fin

/-!
# Sums in lanes, place by place

The kernels take their lists apart from the front and never name a place. Here a sum in lanes is told by
the places of its terms: lane `r` adds up the terms at `r`, `width + r`, `2 * width + r`, and so on, then
come the lanes, then the places behind the last whole block (`laneSumAt`). Each term is read at its place,
and a place that has none is a breach.

The two agree in any arithmetic, so in floats they agree to the last bit (`laneSumAt_eq_ok`): what a block
adds to a lane is the term that stands as far behind the start of the block as the lane behind the first
lane (`addBlocks_numbered`, by induction on the blocks). No reading fails, because the places are all
places, each of them once (`placesInLanes_perm`).
-/

namespace KMeansSeeding

/-! ## Places -/

/-- The places of the terms that a lane adds up, in order. -/
def lanePlaces (width count lane : ℕ) : List ℕ :=
  (List.range (count / width)).map fun block => width * block + lane

/-- The places behind the last whole block, in order. -/
def restPlaces (width count : ℕ) : List ℕ :=
  List.range' (width * (count / width)) (count % width)

/-- The places of all terms, first those of every lane and then the rest. -/
def placesInLanes (width count : ℕ) : List ℕ :=
  (List.range width).flatMap (lanePlaces width count) ++ restPlaces width count

/-- Going through a table lane by lane instead of block by block meets the same places. -/
theorem perm_lanes (width blocks : ℕ) :
    ((List.range width).flatMap fun lane =>
        (List.range blocks).map fun block => width * block + lane).Perm
      (List.range (width * blocks)) := by
  induction blocks with
  | zero => simp
  | succ blocks ih =>
    -- one more block is one more place at the end of every lane
    have last : ((List.range width).flatMap fun lane => [width * blocks + lane])
        = (List.range width).map (width * blocks + ·) := List.flatMap_pure_eq_map _ _
    simp only [List.range_succ, List.map_append, List.map_singleton]
    rw [Nat.mul_succ, List.range_add, ← last]
    exact (List.flatMap_append_perm _ _ _).symm.trans (ih.append_right _)

/-- A sum in lanes uses every place once. -/
theorem placesInLanes_perm (width count : ℕ) :
    (placesInLanes width count).Perm (List.range count) := by
  have split : List.range (width * (count / width)) ++ restPlaces width count
      = List.range count := by
    rw [restPlaces, List.range'_eq_map_range, ← List.range_add, Nat.div_add_mod]
  rw [← split]
  exact (perm_lanes width (count / width)).append_right _

section Arithmetic

variable {α : Type} [Add α]

/-! ## Terms by their places -/

/-- Adds the terms at some places to `start`, one after another. -/
def addAt (termAt : ℕ → Except Breach α) (start : α) (places : List ℕ) : Except Breach α :=
  places.foldlM (fun total place => do return total + (← termAt place)) start

/-- Adding up terms that are there does not fail. -/
theorem addAt_eq_ok {termAt : ℕ → Except Breach α} {term : ℕ → α} {places : List ℕ}
    (h : ∀ place ∈ places, termAt place = .ok (term place)) (start : α) :
    addAt termAt start places
      = .ok (places.foldl (fun total place => total + term place) start) := by
  induction places generalizing start with
  | nil => rfl
  | cons place places ih =>
    obtain ⟨head, tail⟩ := List.forall_mem_cons.mp h
    rw [addAt, List.foldlM_cons, head]
    exact ih tail (start + term place)

/-- Whole blocks of numbered terms, and the terms behind them. -/
theorem addBlocks_numbered (blocks rest width : ℕ) (lane term : ℕ → α) :
    addBlocks blocks ((List.range width).map lane) ((List.range (width * blocks + rest)).map term)
      = ((List.range width).map fun number => (List.range blocks).foldl
            (fun total block => total + term (width * block + number)) (lane number),
          (List.range' (width * blocks) rest).map term) := by
  induction blocks generalizing lane term with
  | zero => simp [addBlocks, List.range_eq_range']
  | succ blocks ih =>
    -- the first block, and all the others with places counted from its end
    have split : (List.range (width * (blocks + 1) + rest)).map term
        = (List.range width).map term
          ++ (List.range (width * blocks + rest)).map fun place => term (width + place) := by
      rw [Nat.mul_succ, Nat.add_comm _ width, Nat.add_assoc, List.range_add, List.map_append,
        List.map_map]
      rfl
    have added (others : List α) :
        List.zipWith (· + ·) ((List.range width).map lane) ((List.range width).map term ++ others)
          = (List.range width).map fun number => lane number + term number := by
      rw [← List.append_nil ((List.range width).map lane), List.zipWith_append (by simp),
        List.zipWith_map, List.zipWith_self, List.zipWith_nil_left, List.append_nil]
    rw [split, addBlocks, added, List.length_map, List.length_range, List.drop_left' (by simp), ih]
    refine Prod.ext ?_ ?_
    · refine List.map_congr_left fun number _ => ?_
      rw [List.range_succ_eq_map, List.foldl_cons, List.foldl_map, Nat.mul_zero, Nat.zero_add]
      simp only [Nat.succ_eq_add_one, Nat.mul_succ, Nat.add_comm _ width, Nat.add_assoc]
    · rw [List.range'_eq_map_range, List.range'_eq_map_range, List.map_map, List.map_map]
      refine List.map_congr_left fun place _ => ?_
      simp only [Function.comp, Nat.mul_succ, Nat.add_comm _ width, Nat.add_assoc]

variable [OfNat α 0]

theorem laneSum_numbered (width count : ℕ) (term : ℕ → α) :
    laneSum width ((List.range count).map term)
      = (restPlaces width count).foldl (fun total place => total + term place)
          (((List.range width).map fun lane => (lanePlaces width count lane).foldl
            (fun total place => total + term place) 0).foldl (· + ·) 0) := by
  have blocks := addBlocks_numbered (count / width) (count % width) width (fun _ => 0) term
  rw [Nat.div_add_mod, List.map_const', List.length_range] at blocks
  rw [laneSum, List.length_map, List.length_range, blocks]
  simp only [lanePlaces, restPlaces, List.foldl_map]

/-- The sum in `width` lanes of `count` terms that are read at their places: every lane from zero on, then
the lanes from left to right, then the terms behind the last whole block. -/
def laneSumAt (width count : ℕ) (termAt : ℕ → Except Breach α) : Except Breach α := do
  let lanes ← (List.range width).mapM fun lane => addAt termAt 0 (lanePlaces width count lane)
  addAt termAt (lanes.foldl (· + ·) 0) (restPlaces width count)

/-- Reading numbered terms at their places gives their sum in lanes, in any arithmetic. -/
theorem laneSumAt_numbered (width : ℕ) {count : ℕ} {termAt : ℕ → Except Breach α} {term : ℕ → α}
    (h : ∀ place < count, termAt place = .ok (term place)) :
    laneSumAt width count termAt = .ok (laneSum width ((List.range count).map term)) := by
  have read : ∀ place ∈ placesInLanes width count, termAt place = .ok (term place) :=
    fun place member => h place (List.mem_range.mp ((placesInLanes_perm _ _).mem_iff.mp member))
  rw [placesInLanes, List.forall_mem_append] at read
  obtain ⟨inLanes, behind⟩ := read
  have lanes : (List.range width).mapM (fun lane => addAt termAt 0 (lanePlaces width count lane))
      = .ok ((List.range width).map fun lane => (lanePlaces width count lane).foldl
          (fun total place => total + term place) 0) :=
    mapM_eq_ok_map fun lane member => addAt_eq_ok (fun place inside =>
      inLanes place (List.mem_flatMap.mpr ⟨lane, member, inside⟩)) 0
  rw [laneSumAt, lanes, laneSum_numbered]
  exact addAt_eq_ok behind _

theorem laneSumAt_eq_ok (width : ℕ) {terms : List α} {termAt : ℕ → Except Breach α}
    (h : ∀ place term, terms[place]? = some term → termAt place = .ok term) :
    laneSumAt width terms.length termAt = .ok (laneSum width terms) := by
  have read : ∀ place < terms.length, termAt place = .ok (terms.getD place 0) := by
    intro place inside
    rw [List.getD_eq_getElem terms 0 inside]
    exact h place _ (List.getElem?_eq_getElem inside)
  have numbered : ((List.range terms.length).map fun place => terms.getD place 0) = terms := by
    apply List.ext_getElem
    · rw [List.length_map, List.length_range]
    · intro place _ inside
      rw [List.getElem_map, List.getElem_range, List.getD_eq_getElem terms 0 inside]
  have sum := laneSumAt_numbered width read
  rwa [numbered] at sum

end Arithmetic

/-! ## Products by their places -/

section Products

variable {κ α : Type} [Mul α] (value : κ → α) (left right : List κ)

/-- The product of the values that two lists have at one place. -/
def productAt (place : ℕ) : Except Breach α := do
  return value (← entryAt left place) * value (← entryAt right place)

/-- The products of two lists side by side. -/
def productTerms : List α :=
  List.zipWith (fun l r => value l * value r) left right

variable {left right}

theorem productAt_eq_ok {place : ℕ} {term : α}
    (found : (productTerms value left right)[place]? = some term) :
    productAt value left right place = .ok term := by
  obtain ⟨l, r, hl, hr, rfl⟩ := List.getElem?_zipWith_eq_some.mp found
  rw [productAt, entryAt_eq_ok_iff.mpr hl, entryAt_eq_ok_iff.mpr hr]
  rfl

theorem length_productTerms (same : left.length = right.length) :
    (productTerms value left right).length = left.length := by
  rw [productTerms, List.length_zipWith, same, min_self]

theorem laneSumAt_productAt [Add α] [OfNat α 0] (width : ℕ) (same : left.length = right.length) :
    laneSumAt width left.length (productAt value left right)
      = .ok (laneSum width (productTerms value left right)) := by
  rw [← length_productTerms value same]
  exact laneSumAt_eq_ok width fun _ _ => productAt_eq_ok value

theorem sum_productTerms [AddCommMonoid α] (same : left.length = right.length) :
    (productTerms value left right).sum
      = ∑ place, value (left.get place) * value (right.get (place.cast same)) := by
  rw [← List.sum_ofFn]
  refine congrArg List.sum (List.ext_getElem ?_ fun place _ _ => ?_)
  · rw [length_productTerms value same, List.length_ofFn]
  · simp [productTerms]

end Products

/-! ## The kernels -/

section Kernels

variable {κ α : Type} [Add α] [Mul α] [OfNat α 0]

/-- A dot product in `width` lanes of the values of two lists. Lengths are compared before anything is read,
and nothing else can fail. -/
structure DotByPlaces (width : ℕ) (value : κ → α) (left right : List κ) (answer : Except Breach α) :
    Prop where
  eq_laneSumAt : answer = do
    sameLength left right
    laneSumAt width left.length (productAt value left right)
  exists_ok : left.length = right.length → ∃ dot, answer = .ok dot
  eq_error : left.length ≠ right.length →
    answer = .error (.unequalLengths left.length right.length)

theorem DotByPlaces.eq_of_same {width : ℕ} {value : κ → α} {left right : List κ}
    {answer : Except Breach α} (h : DotByPlaces width value left right answer)
    (same : left.length = right.length) :
    answer = laneSumAt width left.length (productAt value left right) := by
  rw [h.eq_laneSumAt, sameLength, if_pos same]
  rfl

variable (width : ℕ) (value : κ → α) {left right : List κ}

theorem laneDot_eq_productTerms (same : left.length = right.length) :
    laneDot width (left.map value) (right.map value)
      = .ok (laneSum width (productTerms value left right)) := by
  rw [laneDot_eq_ok (by rw [List.length_map, List.length_map, same]), List.zipWith_map]
  rfl

theorem dotByPlaces_laneDot (left right : List κ) :
    DotByPlaces width value left right (laneDot width (left.map value) (right.map value)) := by
  by_cases same : left.length = right.length
  · have dot := laneDot_eq_productTerms width value same
    refine ⟨?_, fun _ => ⟨_, dot⟩, fun different => absurd same different⟩
    rw [dot, sameLength, if_pos same]
    exact (laneSumAt_productAt value width same).symm
  · have broken : laneDot width (left.map value) (right.map value)
        = .error (.unequalLengths left.length right.length) := by
      rw [laneDot_eq_error (by rwa [List.length_map, List.length_map]), List.length_map,
        List.length_map]
    refine ⟨?_, fun equal => absurd equal same, fun _ => broken⟩
    rw [broken, sameLength, if_neg same]
    rfl

end Kernels

/-- In any arithmetic, and so bit for bit in floats, the dot product of eight lanes, that of four lanes and
the squared norm are the sums of the products read at their places, in the order of `laneSumAt`. No place
is read that a list does not have: every place below the length is used once, and no other is. So in a
commutative ring they are plain sums over all places. Two lists of different lengths are refused for their
lengths before anything is read, whatever the arithmetic is. -/
theorem kernels_use_places_once :
    (∀ {α : Type} [Add α] [Mul α] [OfNat α 0] (left right : List α),
      DotByPlaces 8 id left right (narrowDot left right)) ∧
    (∀ {κ α : Type} [Widen κ α] [Add α] [Mul α] [OfNat α 0],
      (∀ left right : List κ, DotByPlaces 4 (widen (α := α)) left right (wideDot left right)) ∧
      ∀ components : List κ, laneSumAt 4 components.length (productAt widen components components)
        = .ok (squaredNorm (α := α) components)) ∧
    (∀ width count, (placesInLanes width count).Perm (List.range count)) ∧
    (∀ {R : Type} [CommRing R] (left right : List R) (same : left.length = right.length),
      narrowDot left right = .ok (∑ place, left.get place * right.get (place.cast same))) ∧
    ∀ {κ R : Type} [Widen κ R] [CommRing R],
      (∀ (left right : List κ) (same : left.length = right.length), wideDot left right
        = .ok (∑ place, (widen (left.get place) : R) * widen (right.get (place.cast same)))) ∧
      ∀ components : List κ, squaredNorm components
        = ∑ place, (widen (components.get place) : R) * widen (components.get place) := by
  refine ⟨?_, ?_, placesInLanes_perm, ?_, ?_⟩
  · intro α _ _ _ left right
    have dot := dotByPlaces_laneDot 8 id left right
    rwa [List.map_id, List.map_id] at dot
  · intro κ α _ _ _ _
    have dot (left right : List κ) : DotByPlaces 4 (widen (α := α)) left right (wideDot left right) :=
      dotByPlaces_laneDot 4 widen left right
    refine ⟨dot, fun components => ?_⟩
    rw [← (dot components components).eq_of_same rfl]
    exact wideDot_self components
  · intro R _ left right same
    have dot := laneDot_eq_productTerms 8 id same
    rwa [List.map_id, List.map_id, laneSum_eq_sum, sum_productTerms id same] at dot
  · intro κ R _ _
    have dot (left right : List κ) (same : left.length = right.length) : wideDot left right
        = .ok (∑ place, (widen (left.get place) : R) * widen (right.get (place.cast same))) := by
      have terms := laneDot_eq_productTerms 4 (widen (α := R)) same
      rwa [laneSum_eq_sum, sum_productTerms _ same] at terms
    exact ⟨dot, fun components =>
      Except.ok.inj ((wideDot_self components).symm.trans (dot components components rfl))⟩

/-- Two whole blocks and one place behind them. In single precision the two small terms of one lane are
kept, since they are added to each other first, and the term behind the blocks is rounded up. In whole
numbers the sum is what it should be. One component more in one of the lists, and both are refused. -/
theorem kernels_use_places_once_rounded :
    let left : Point := [16777216, 1, 0, 0, 0, 0, 0, 0, 0, 1, 0, 0, 0, 0, 0, 0, 1]
    let right : Point := List.replicate 17 1
    let whole : List ℤ := [16777216, 1, 0, 0, 0, 0, 0, 0, 0, 1, 0, 0, 0, 0, 0, 0, 1]
    let ones : List ℤ := List.replicate 17 1
    placesInLanes 8 17 = [0, 8, 1, 9, 2, 10, 3, 11, 4, 12, 5, 13, 6, 14, 7, 15, 16] ∧
    left.length = right.length ∧ (∃ dot, narrowDot left right = .ok dot ∧ dot = 16777220) ∧
    laneSumAt 8 left.length (productAt id left right) = .ok 16777220 ∧
    whole.length = ones.length ∧ narrowDot whole ones = .ok 16777219 ∧
    left.length ≠ (1 :: right).length ∧
    narrowDot left (1 :: right) = .error (.unequalLengths 17 18) ∧
    wideDot (α := Float) left (1 :: right) = .error (.unequalLengths 17 18) := by
  intro left right whole ones
  obtain ⟨narrow, wide, -, ring, -⟩ := kernels_use_places_once
  have same : left.length = right.length := by decide
  have different : left.length ≠ (1 :: right).length := by decide
  have sum : narrowDot left right = .ok 16777220 := by decide +kernel
  obtain ⟨dot, found⟩ := (narrow left right).exists_ok same
  have read : narrowDot left right = laneSumAt 8 left.length (productAt id left right) :=
    (narrow left right).eq_of_same same
  have rounded : dot = 16777220 := Except.ok.inj (found.symm.trans sum)
  have plain : narrowDot whole ones = .ok 16777219 := (ring whole ones rfl).trans (by decide +kernel)
  exact ⟨by decide, same, ⟨dot, found, rounded⟩, read.symm.trans sum, rfl, plain, different,
    (narrow left _).eq_error different, (wide.1 left _).eq_error different⟩

end KMeansSeeding
