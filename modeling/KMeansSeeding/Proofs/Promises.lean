import KMeansSeeding.Fault
import Mathlib.Data.List.Forall2

/-!
# Chains and lists of checked operations

An operation that may fail is followed by others, or applied to the elements of a list from left to
right; the first failure ends the work. So a chain succeeds exactly if every link does, and a
traversal exactly if the operation succeeds on every element, whether failures have a fault or not.
-/

namespace KMeansSeeding

variable {α β ε : Type}

/-- A chain succeeds exactly if its first link does, and the rest goes on from there. -/
theorem bind_eq_ok_iff {first : Except ε α} {next : α → Except ε β} {result : β} :
    (first >>= next) = .ok result ↔ ∃ value, first = .ok value ∧ next value = .ok result := by
  cases first with
  | error fault => exact ⟨nofun, nofun⟩
  | ok value =>
    refine ⟨fun h => ⟨value, rfl, h⟩, ?_⟩
    rintro ⟨_, ⟨⟩, h⟩
    exact h

theorem map_eq_ok_iff {answer : Except ε α} {change : α → β} {result : β} :
    answer.map change = .ok result ↔ ∃ value, answer = .ok value ∧ change value = result := by
  cases answer <;> simp [Except.map]

theorem map_eq_error_iff {answer : Except ε α} {change : α → β} {fault : ε} :
    answer.map change = .error fault ↔ answer = .error fault := by
  cases answer <;> simp [Except.map]

/-- A chain fails with the fault of its first link, or else with that of the rest. -/
theorem bind_eq_error_iff {first : Except ε α} {next : α → Except ε β} {fault : ε} :
    (first >>= next) = .error fault ↔
      first = .error fault ∨ ∃ value, first = .ok value ∧ next value = .error fault := by
  cases first with
  | error other => simp [bind, Except.bind]
  | ok value => simp [bind, Except.bind]

theorem toOption_eq_some_iff {answer : Except ε α} {value : α} :
    answer.toOption = some value ↔ answer = .ok value := by
  cases answer <;> simp [Except.toOption]

theorem toOption_eq_none_iff {answer : Except ε α} :
    answer.toOption = none ↔ ∃ fault, answer = .error fault := by
  cases answer <;> simp [Except.toOption]

theorem mapM_congr {m : Type → Type} [Monad m] [LawfulMonad m] {f g : α → m β} {items : List α}
    (same : ∀ item ∈ items, f item = g item) : items.mapM f = items.mapM g := by
  induction items with
  | nil => rfl
  | cons item items ih =>
    obtain ⟨head, tail⟩ := List.forall_mem_cons.mp same
    rw [List.mapM_cons, List.mapM_cons, head, ih tail]

/-- A traversal succeeds exactly if every element has its result, in order. -/
theorem mapM_eq_ok_iff {f : α → Except ε β} {items : List α} {results : List β} :
    items.mapM f = .ok results ↔
      List.Forall₂ (fun item result => f item = .ok result) items results := by
  induction items generalizing results with
  | nil =>
    rw [List.forall₂_nil_left_iff]
    exact ⟨fun h => (Except.ok.inj h).symm, fun h => h ▸ rfl⟩
  | cons item items ih =>
    rw [List.mapM_cons, List.forall₂_cons_left_iff, bind_eq_ok_iff]
    constructor
    · rintro ⟨result, hitem, h⟩
      obtain ⟨rest, hrest, h⟩ := bind_eq_ok_iff.mp h
      exact ⟨result, rest, hitem, ih.mp hrest, (Except.ok.inj h).symm⟩
    · rintro ⟨result, rest, hitem, hrest, rfl⟩
      exact ⟨result, hitem, bind_eq_ok_iff.mpr ⟨rest, ih.mpr hrest, rfl⟩⟩

/-- A traversal by an operation that succeeds on every element is a map. -/
theorem mapM_eq_ok_map {f : α → Except ε β} {g : α → β} {items : List α}
    (h : ∀ item ∈ items, f item = .ok (g item)) : items.mapM f = .ok (items.map g) :=
  mapM_eq_ok_iff.mpr <| List.forall₂_map_right_iff.mpr <| List.forall₂_same.mpr h

/-- A traversal fails at the first element without a result, with the fault of that element. -/
theorem mapM_eq_error_iff {f : α → Except ε β} {items : List α} {fault : ε} :
    items.mapM f = .error fault ↔
      ∃ before item later, items = before ++ item :: later ∧
        (∀ earlier ∈ before, ∃ result, f earlier = .ok result) ∧ f item = .error fault := by
  induction items with
  | nil =>
    refine ⟨nofun, ?_⟩
    rintro ⟨before, item, later, split, -⟩
    simp at split
  | cons head items ih =>
    rw [List.mapM_cons, bind_eq_error_iff]
    constructor
    · rintro (failed | ⟨result, passed, failed⟩)
      · exact ⟨[], head, items, rfl, nofun, failed⟩
      · -- the head has its result, so the rest of the traversal is what failed
        have rest : items.mapM f = .error fault := by
          rcases bind_eq_error_iff.mp failed with rest | ⟨_, -, ended⟩
          · exact rest
          · cases ended
        obtain ⟨before, item, later, rfl, passing, failed⟩ := ih.mp rest
        refine ⟨head :: before, item, later, rfl, ?_, failed⟩
        exact List.forall_mem_cons.mpr ⟨⟨result, passed⟩, passing⟩
    · rintro ⟨before, item, later, split, passing, failed⟩
      cases before with
      | nil =>
        obtain ⟨rfl, rfl⟩ := List.cons.inj split
        exact .inl failed
      | cons first before =>
        obtain ⟨rfl, rfl⟩ := List.cons.inj split
        obtain ⟨⟨result, passed⟩, passing⟩ := List.forall_mem_cons.mp passing
        have rest := ih.mpr ⟨before, item, later, rfl, passing, failed⟩
        exact .inr ⟨result, passed, bind_eq_error_iff.mpr (.inl rest)⟩

/-- A traversal of the first numbers fails at the first one without a result. -/
theorem mapM_range_eq_error {f : Nat → Except ε β} {count number : Nat} {fault : ε}
    (inside : number < count) (passing : ∀ earlier < number, ∃ result, f earlier = .ok result)
    (failed : f number = .error fault) : (List.range count).mapM f = .error fault := by
  obtain ⟨others, rfl⟩ := Nat.exists_eq_add_of_lt inside
  have split : List.range (number + others + 1)
      = List.range number ++ number :: (List.range others).map (number + 1 + ·) := by
    rw [Nat.add_right_comm, List.range_add, List.range_succ, List.append_assoc, List.singleton_append]
  exact mapM_eq_error_iff.mpr ⟨_, number, _, split,
    fun earlier member => passing earlier (List.mem_range.mp member), failed⟩

/-- A traversal has results if every element has one. -/
theorem exists_mapM_eq_ok {f : α → Except ε β} {items : List α}
    (h : ∀ item ∈ items, ∃ result, f item = .ok result) : ∃ results, items.mapM f = .ok results := by
  cases traversed : items.mapM f with
  | ok results => exact ⟨results, rfl⟩
  | error fault =>
    obtain ⟨before, item, later, rfl, -, failed⟩ := mapM_eq_error_iff.mp traversed
    obtain ⟨result, passed⟩ := h item (by simp)
    rw [failed] at passed
    cases passed

/-- A traversal that succeeds has a result for every element. -/
theorem exists_of_mapM_eq_ok {f : α → Except ε β} {items : List α} {results : List β}
    (traversed : items.mapM f = .ok results) {item : α} (member : item ∈ items) :
    ∃ result, f item = .ok result := by
  have each := mapM_eq_ok_iff.mp traversed
  induction each with
  | nil => exact absurd member List.not_mem_nil
  | @cons head result items results first rest ih =>
    rcases List.mem_cons.mp member with rfl | member
    · exact ⟨result, first⟩
    · exact ih (mapM_eq_ok_iff.mpr rest) member

/-- A check of every element succeeds exactly if every single check does. -/
theorem forM_eq_ok_iff {f : α → Except ε Unit} {items : List α} :
    items.forM f = .ok () ↔ ∀ item ∈ items, f item = .ok () := by
  rw [List.forM_eq_forM]
  induction items with
  | nil => exact ⟨fun _ _ h => absurd h List.not_mem_nil, fun _ => rfl⟩
  | cons item items ih =>
    rw [List.forM_cons, bind_eq_ok_iff, List.forall_mem_cons, ← ih]
    exact ⟨fun ⟨_, h, hrest⟩ => ⟨h, hrest⟩, fun ⟨h, hrest⟩ => ⟨(), h, hrest⟩⟩

/-- A check of every element fails at the first one that does not pass. -/
theorem forM_eq_error_iff {f : α → Except ε Unit} {items : List α} {fault : ε} :
    items.forM f = .error fault ↔
      ∃ before item later, items = before ++ item :: later ∧
        (∀ earlier ∈ before, f earlier = .ok ()) ∧ f item = .error fault := by
  have traversal : items.forM f = (items.mapM f).map fun _ => () := by
    rw [List.forM_eq_forM]
    induction items with
    | nil => rfl
    | cons item items ih =>
      rw [List.forM_cons, List.mapM_cons, ih]
      cases f item with
      | error fault => rfl
      | ok _ => cases items.mapM f <;> rfl
  have passes : ∀ item, (∃ result, f item = .ok result) ↔ f item = .ok () :=
    fun item => ⟨fun ⟨_, passed⟩ => passed, fun passed => ⟨(), passed⟩⟩
  rw [traversal, map_eq_error_iff, mapM_eq_error_iff]
  simp only [passes]

/-! ## Traversals without faults -/

section Options

variable {γ : Type} {f : α → Option β} {items : List α}

/-- A traversal, with its steps as maps. -/
theorem mapM_cons_eq_bind (f : α → Option β) (item : α) (items : List α) :
    (item :: items).mapM f = (f item).bind fun value => (items.mapM f).map (value :: ·) := by
  rw [List.mapM_cons]
  cases f item with
  | none => rfl
  | some value => cases items.mapM f <;> rfl

theorem mapM_eq_some_map {g : α → β} (h : ∀ item ∈ items, f item = some (g item)) :
    items.mapM f = some (items.map g) :=
  (mapM_congr h).trans List.mapM_pure

/-- A traversal has a result exactly if every element has one. -/
theorem isSome_mapM_iff :
    (items.mapM f).isSome = true ↔ ∀ item ∈ items, (f item).isSome = true := by
  induction items with
  | nil => exact ⟨fun _ => nofun, fun _ => rfl⟩
  | cons item items ih =>
    rw [mapM_cons_eq_bind, List.forall_mem_cons, ← ih]
    cases f item <;> simp

theorem mapM_eq_none {item : α} (member : item ∈ items) (missing : f item = none) :
    items.mapM f = none := by
  rw [← Option.not_isSome_iff_eq_none, isSome_mapM_iff]
  intro all
  have := all item member
  rw [missing] at this
  cases this

/-- What holds of every element and its result holds of the traversal, element by element. -/
theorem forall₂_of_mapM {R : α → β → Prop} {results : List β}
    (steps : ∀ item ∈ items, ∀ result ∈ f item, R item result)
    (traversed : items.mapM f = some results) : List.Forall₂ R items results := by
  induction items generalizing results with
  | nil =>
    cases traversed
    exact .nil
  | cons item items ih =>
    obtain ⟨step, steps⟩ := List.forall_mem_cons.mp steps
    rw [mapM_cons_eq_bind] at traversed
    obtain ⟨result, found, tail⟩ := Option.bind_eq_some_iff.mp traversed
    obtain ⟨results, others, rfl⟩ := Option.map_eq_some_iff.mp tail
    exact .cons (step result found) (ih steps others)

/-- Two traversals in a row are one traversal by both steps. -/
theorem bind_mapM {second : β → Option γ} {both : α → Option γ}
    (steps : ∀ item ∈ items, (f item).bind second = both item) :
    ((items.mapM f).bind fun results => results.mapM second) = items.mapM both := by
  induction items with
  | nil => rfl
  | cons item items ih =>
    obtain ⟨step, steps⟩ := List.forall_mem_cons.mp steps
    rw [mapM_cons_eq_bind, mapM_cons_eq_bind, ← step, ← ih steps]
    cases f item with
    | none => rfl
    | some result =>
      cases items.mapM f with
      | none => simp
      | some results =>
        show (result :: results).mapM second = _
        rw [mapM_cons_eq_bind]
        rfl

end Options

/-! ## Numbered elements -/

/-- A numbered list, split at one of its elements. -/
theorem zipIdx_eq_append {items : List α} {position : Nat} {item : α}
    (found : items[position]? = some item) :
    ∃ before later, items.zipIdx = before ++ (item, position) :: later ∧
      ∀ earlier ∈ before, earlier.2 < position ∧ items[earlier.2]? = some earlier.1 := by
  have numbered : items.zipIdx[position]? = some (item, position) := by
    rw [List.getElem?_zipIdx, found, Option.map_some, Nat.zero_add]
  obtain ⟨inside, same⟩ := List.getElem?_eq_some_iff.mp numbered
  refine ⟨items.zipIdx.take position, items.zipIdx.drop (position + 1), ?_, ?_⟩
  · rw [← same, ← List.drop_eq_getElem_cons inside, List.take_append_drop]
  · intro earlier member
    obtain ⟨number, before⟩ := List.mem_iff_getElem?.mp member
    rw [List.getElem?_take] at before
    split_ifs at before with order
    rw [List.getElem?_zipIdx, Nat.zero_add] at before
    obtain ⟨other, place, rfl⟩ := Option.map_eq_some_iff.mp before
    exact ⟨order, place⟩

section Numbered

variable {items : List α} {position : Nat} {item : α} {fault : ε}
  (found : items[position]? = some item)

include found

/-- A traversal of numbered elements fails at the first position without a result. -/
theorem mapM_zipIdx_eq_error {f : α × Nat → Except ε β}
    (passing : ∀ earlier < position, ∀ other, items[earlier]? = some other →
      ∃ result, f (other, earlier) = .ok result)
    (failed : f (item, position) = .error fault) : items.zipIdx.mapM f = .error fault := by
  obtain ⟨before, later, split, order⟩ := zipIdx_eq_append found
  refine mapM_eq_error_iff.mpr ⟨before, _, later, split, fun earlier member => ?_, failed⟩
  exact passing _ (order earlier member).1 _ (order earlier member).2

/-- A check of numbered elements fails at the first position that does not pass. -/
theorem forM_zipIdx_eq_error {f : α × Nat → Except ε Unit}
    (passing : ∀ earlier < position, ∀ other, items[earlier]? = some other →
      f (other, earlier) = .ok ())
    (failed : f (item, position) = .error fault) : items.zipIdx.forM f = .error fault := by
  obtain ⟨before, later, split, order⟩ := zipIdx_eq_append found
  refine forM_eq_error_iff.mpr ⟨before, _, later, split, fun earlier member => ?_, failed⟩
  exact passing _ (order earlier member).1 _ (order earlier member).2

end Numbered

end KMeansSeeding
