import KMeansSeeding.Proofs.Index.Refusals

/-!
# Filling an index

An index is filled center by center, set by set, up to the first center that does not fit. When the
index is started from the sets themselves, all centers are checked before the first one is added. Both
ways stop at the same center (`FirstUneven`), so where one of them succeeds the other does too.
-/

namespace KMeansSeeding

/-! ## Points of one dimension -/

/-- A value, unless a point has the wrong dimension. The first such point is the fault. -/
def unlessMisfit {α : Type} (dimension : Nat) (points : List Point) (value : α) : Except Fault α :=
  match points.find? (·.length != dimension) with
  | some point => .error (.wrongDimension dimension point.length)
  | none => .ok value

section Misfit

variable {α β : Type} {dimension : Nat} {point : Point} (points : List Point)

theorem unlessMisfit_cons_of_eq (fits : point.length = dimension) (value : α) :
    unlessMisfit dimension (point :: points) value = unlessMisfit dimension points value := by
  have skipped : (point.length != dimension) = false := by simp [fits]
  rw [unlessMisfit, List.find?_cons, skipped, ← unlessMisfit]

theorem unlessMisfit_cons_of_ne (misfit : point.length ≠ dimension) (value : α) :
    unlessMisfit dimension (point :: points) value
      = .error (.wrongDimension dimension point.length) := by
  have found : (point.length != dimension) = true := by simp [misfit]
  rw [unlessMisfit, List.find?_cons, found]

theorem map_unlessMisfit (change : α → β) (value : α) :
    (unlessMisfit dimension points value).map change
      = unlessMisfit dimension points (change value) := by
  rw [unlessMisfit, unlessMisfit]
  cases points.find? (·.length != dimension) <;> rfl

variable {points} in
theorem unlessMisfit_eq_ok_iff {value result : α} :
    unlessMisfit dimension points value = .ok result ↔
      (∀ point ∈ points, point.length = dimension) ∧ value = result := by
  rw [unlessMisfit]
  cases first : points.find? (·.length != dimension) with
  | some point =>
    have misfit : point.length ≠ dimension := by simpa using List.find?_some first
    refine ⟨nofun, fun fits => absurd (fits.1 point (List.mem_of_find?_eq_some first)) misfit⟩
  | none =>
    have fits : ∀ point ∈ points, point.length = dimension := by simpa using first
    exact ⟨fun same => ⟨fits, Except.ok.inj same⟩, fun same => congrArg _ same.2⟩

end Misfit

/-! ## Centers of one dimension -/

/-- The center at a position of a set is the first, set by set, that has another dimension. -/
structure FirstUneven (sets : List (List Point)) (dimension fold position : Nat) (center : Point) :
    Prop where
  found : (sets[fold]?).bind (·[position]?) = some center
  uneven : center.length ≠ dimension
  earlier : ∀ set place other, set < fold ∨ set = fold ∧ place < position →
    (sets[set]?).bind (·[place]?) = some other → other.length = dimension

/-- The first misfit of all centers in a row is the first uneven one. -/
theorem exists_firstUneven {sets : List (List Point)} {dimension : Nat} {center : Point}
    (first : sets.flatten.find? (·.length != dimension) = some center) :
    ∃ fold position, FirstUneven sets dimension fold position center := by
  obtain ⟨uneven, before, set, others, after, rfl, evenBefore, even⟩ :=
    List.find?_flatten_eq_some_iff.mp first
  refine ⟨before.length, set.length, ?_, by simpa using uneven, ?_⟩
  · simp
  · rintro fold place other (order | ⟨rfl, order⟩) found
    · rw [List.getElem?_append_left order] at found
      obtain ⟨earlier, hset, member⟩ := Option.bind_eq_some_iff.mp found
      have fits := evenBefore earlier (List.mem_of_getElem? hset) other (List.mem_of_getElem? member)
      simpa using fits
    · have member : set[place]? = some other := by
        simpa [List.getElem?_append_left order] using found
      simpa using even other (List.mem_of_getElem? member)

namespace Index

/-! ## Adding centers -/

/-- Adding to folds that are there goes on up to the first point of a wrong dimension. -/
theorem answer_addAll {index : Index} {points : List (Point × Nat)}
    (inside : ∀ placement ∈ points, placement.2 < index.size) :
    (index.addAll points).answer = unlessMisfit index.dimension (points.map Prod.fst) () := by
  induction points generalizing index with
  | nil => rfl
  | cons placement points ih =>
    obtain ⟨point, fold⟩ := placement
    obtain ⟨room, rest⟩ := List.forall_mem_cons.mp inside
    rw [addAll, add_eq_guarded, List.map_cons]
    by_cases fits : point.length = index.dimension
    · have size : (index.grown point fold).size = index.size := List.length_modify _ _ _
      have restInside : ∀ placement ∈ points, placement.2 < (index.grown point fold).size := by
        rwa [size]
      have later := ih restInside
      rw [guarded_eq_step room fits, unlessMisfit_cons_of_eq _ fits]
      exact later
    · rw [guarded, if_neg (Nat.not_le.mpr room), if_pos fits, unlessMisfit_cons_of_ne _ fits]
      rfl

theorem map_fst_placed (sets : List (List Point)) : (placed sets).map Prod.fst = sets.flatten := by
  have centers : ∀ numbered : List Point × Nat,
      (numbered.1.map (·, numbered.2)).map Prod.fst = numbered.1 := by
    intro numbered
    rw [List.map_map]
    exact List.map_id _
  rw [placed, List.map_flatMap]
  simp only [centers]
  rw [List.flatMap_def, List.zipIdx_map_fst]

theorem snd_lt_of_mem_placed {sets : List (List Point)} {placement : Point × Nat}
    (member : placement ∈ placed sets) : placement.2 < sets.length := by
  obtain ⟨numbered, hset, member⟩ := List.mem_flatMap.mp member
  obtain ⟨center, -, rfl⟩ := List.mem_map.mp member
  exact (List.getElem?_eq_some_iff.mp (List.mem_zipIdx_iff_getElem?.mp hset)).1

/-- An index of a sound configuration is filled up to the first center of a wrong dimension. -/
theorem ofSets_eq_unlessMisfit {configuration : Configuration} (sound : configuration.Sound)
    {sets : List (List Point)} (count : configuration.folds = sets.length) :
    ∃ index, ofSets configuration sets
      = unlessMisfit configuration.dimension sets.flatten index := by
  obtain ⟨empty, created⟩ : ∃ empty, create configuration = .ok empty :=
    ⟨_, by rw [create, Configuration.check_eq_ok_iff.mpr sound]; rfl⟩
  have kept := kept_of_create created
  have filled : (empty.addAll (placed sets)).answer
      = unlessMisfit configuration.dimension sets.flatten () := by
    rw [answer_addAll fun placement member => ?_, kept.dimension_eq, map_fst_placed]
    rw [kept.size_eq, count]
    exact snd_lt_of_mem_placed member
  refine ⟨(empty.addAll (placed sets)).index, ?_⟩
  rw [ofSets, created]
  show ((empty.addAll (placed sets)).answer >>= fun _ => _) = _
  rw [filled, unlessMisfit, unlessMisfit]
  cases sets.flatten.find? (·.length != configuration.dimension) <;> rfl

/-! ## Checking centers -/

/-- With a first center, the checks of all centers come before the index. -/
theorem ofCenters_cons (first : Point) (rest : List Point) (others : List (List Point))
    (bits samples : Nat) (seed : UInt64) :
    ofCenters ((first :: rest) :: others) bits samples seed
      = (((first :: rest) :: others).zipIdx.forM fun (set, fold) =>
          checkSet first.length fold set) >>= fun _ =>
        ofSets { Configuration.ofShape (others.length + 1) first.length with bits, samples, seed }
          ((first :: rest) :: others) :=
  rfl

/-- The checks pass if all centers have the dimension. -/
theorem checkSets_eq_ok {sets : List (List Point)} {dimension : Nat}
    (even : ∀ set ∈ sets, ∀ center ∈ set, center.length = dimension) :
    (sets.zipIdx.forM fun (set, fold) => checkSet dimension fold set) = .ok () := by
  refine forM_eq_ok_iff.mpr ?_
  rintro ⟨set, fold⟩ member
  refine forM_eq_ok_iff.mpr ?_
  rintro ⟨center, position⟩ among
  have hset := List.mem_of_getElem? (List.mem_zipIdx_iff_getElem?.mp member)
  exact if_pos (even set hset center (List.mem_of_getElem? (List.mem_zipIdx_iff_getElem?.mp among)))

/-- The checks pass for all centers of an index that could be filled. -/
theorem checkSets_of_ofSets {configuration : Configuration} {sets : List (List Point)} {index : Index}
    (filled : ofSets configuration sets = .ok index) :
    (sets.zipIdx.forM fun (set, fold) => checkSet configuration.dimension fold set) = .ok () := by
  refine checkSets_eq_ok fun set member center among => ?_
  obtain ⟨fold, place⟩ := List.mem_iff_getElem?.mp member
  have fit := (kept_of_ofSets filled).fit fold center
  rw [place, Option.getD_some] at fit
  exact fit among

/-- The checks fail at the first uneven center. -/
theorem checkSets_eq_error {sets : List (List Point)} {dimension fold position : Nat}
    {center : Point} (first : FirstUneven sets dimension fold position center) :
    (sets.zipIdx.forM fun (set, fold) => checkSet dimension fold set)
      = .error (.misfit (.unevenCenter position fold center.length dimension)) := by
  obtain ⟨set, hset, hcenter⟩ := Option.bind_eq_some_iff.mp first.found
  refine forM_zipIdx_eq_error hset (fun other before earlier hearlier => ?_) ?_
  · -- the sets before it are even
    refine forM_eq_ok_iff.mpr ?_
    rintro ⟨point, place⟩ member
    have hpoint := List.mem_zipIdx_iff_getElem?.mp member
    refine if_pos (first.earlier other place point (.inl before) ?_)
    rw [hearlier, Option.bind_some]
    exact hpoint
  · refine forM_zipIdx_eq_error hcenter (fun place before point hpoint => ?_) ?_
    · refine if_pos (first.earlier fold place point (.inr ⟨rfl, before⟩) ?_)
      rw [hset, Option.bind_some]
      exact hpoint
    · exact if_neg first.uneven

end Index

end KMeansSeeding
