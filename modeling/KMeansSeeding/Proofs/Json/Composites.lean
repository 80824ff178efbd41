import KMeansSeeding.Json.Shape
import KMeansSeeding.Proofs.Json.Numbers
import KMeansSeeding.Proofs.Json.Strings
import KMeansSeeding.Proofs.Promises

/-!
# Lists and records read back part by part

A list or a record is written as parts between brackets, each part behind a comma and a line break
but the first. Its reader goes from part to part, so its answer is made of those for the parts: if
all of them have one, in their order, and none otherwise (`answers_list`, `answers_record`).
-/

namespace KMeansSeeding.Json

/-- Line breaks and what stands behind a colon are blank. -/
structure Spacing.Blank (spacing : Spacing) : Prop where
  lineBreak : ∀ level, Reader.Blanks (spacing.lineBreak level)
  afterColon : Reader.Blanks spacing.afterColon

theorem blank_compact : Spacing.Blank .compact :=
  ⟨fun _ => Reader.blanks_nil, Reader.blanks_nil⟩

theorem blank_indented : Spacing.Blank .indented := by
  refine ⟨fun level c member => ?_, ?_⟩
  · rcases List.mem_cons.mp member with rfl | space
    · rfl
    · rw [List.eq_of_mem_replicate space]
      rfl
  · intro c member
    rw [List.mem_singleton.mp member]
    rfl

/-- All parts of an enclosed text but the first one. -/
def following (lead : List Char) (parts : List (List Char)) : List Char :=
  parts.flatMap fun part => ',' :: (lead ++ part)

/-- What stands between the brackets. -/
def between (spacing : Spacing) (level : ℕ) : List (List Char) → List Char
  | [] => []
  | first :: others =>
    spacing.lineBreak (level + 1) ++
      (first ++ (following (spacing.lineBreak (level + 1)) others ++ spacing.lineBreak level))

theorem enclose_eq (spacing : Spacing) (level : ℕ) (opening closing : Char)
    (parts : List (List Char)) :
    enclose spacing level opening closing parts
      = opening :: (between spacing level parts ++ [closing]) := by
  cases parts with
  | nil => rfl
  | cons first others => simp [enclose, between, following]

/-- Each part but the first one has a comma. -/
theorem length_le_between (spacing : Spacing) (level : ℕ) (parts : List (List Char)) :
    parts.length ≤ (between spacing level parts).length + 1 := by
  have commas (lead : List Char) (parts : List (List Char)) :
      parts.length ≤ (following lead parts).length := by
    induction parts with
    | nil => exact Nat.le_refl 0
    | cons part parts ih =>
      simp only [following, List.flatMap_cons, List.length_append, List.length_cons] at ih ⊢
      omega
  cases parts with
  | nil => exact Nat.zero_le _
  | cons first others =>
    have := commas (spacing.lineBreak (level + 1)) others
    simp only [between, List.length_append, List.length_cons]
    omega

namespace Reader

/-! ## Between the parts -/

section Between

variable {c : Char} {text blanks rest : List Char}

theorem takes_startOfValue (blank : Blanks blanks) (solid : Cursor.isBlank c = false) :
    startOfValue.Takes blanks (c :: rest) c :=
  (takes_peekSolid_cons blank solid).bind_last (takes_pure c _)

theorem stops_cons (end_of_number : c.isDigit = false ∧ c ≠ '.' ∧ isExponentMark c = false) :
    Stops (c :: rest) := by
  intro d same
  obtain rfl := Option.some.inj same
  exact end_of_number

theorem stops_nil : Stops [] :=
  nofun

theorem end_of_isBlank (blank : Cursor.isBlank c = true) :
    c.isDigit = false ∧ c ≠ '.' ∧ isExponentMark c = false := by
  rw [Cursor.isBlank] at blank
  simp only [Bool.or_eq_true, decide_eq_true_eq] at blank
  rcases blank with ((rfl | rfl) | rfl) | rfl <;> decide

/-- Blanks end a number like what stands behind them. -/
theorem stops_append (blank : Blanks blanks) (stop : Stops rest) : Stops (blanks ++ rest) := by
  cases blanks with
  | nil => exact stop
  | cons c blanks => exact stops_cons (end_of_isBlank (blank c List.mem_cons_self))

theorem stops_following (lead : List Char) (parts : List (List Char)) (stop : Stops rest) :
    Stops (following lead parts ++ rest) := by
  cases parts with
  | nil => exact stop
  | cons part parts => exact stops_cons (by decide)

end Between

/-! ## Lists -/

/-- A text that starts with a character which is not blank and does not end a list. -/
def Opens (text : List Char) : Prop :=
  ∃ c ∈ text.head?, Cursor.isBlank c = false ∧ c ≠ ']'

section Items

variable {lead tail part rest : List Char}

theorem takes_anotherItem_first (blank : Blanks lead) (opens : Opens part) :
    (anotherItem true).Takes lead (part ++ rest) true := by
  obtain ⟨c, head, solid, inner⟩ := opens
  obtain ⟨others, rfl⟩ := List.head?_eq_some_iff.mp head
  refine Takes.bind_last (takes_peekSolid_cons blank solid) ?_
  dsimp only
  rw [if_neg inner, if_pos rfl]
  exact takes_pure true _

theorem takes_anotherItem_next (blank : Blanks lead) (opens : Opens part) :
    (anotherItem false).Takes (',' :: lead) (part ++ rest) true := by
  obtain ⟨c, head, solid, inner⟩ := opens
  obtain ⟨others, rfl⟩ := List.head?_eq_some_iff.mp head
  refine Takes.bind_ahead (takes_peekSolid_cons blanks_nil rfl) ?_
  refine (takes_skip ',' (lead ++ (c :: others ++ rest))).bind ?_
  refine Takes.bind_last (takes_peekSolid_cons blank solid) ?_
  split
  · rename_i closing
    exact absurd (Option.some.inj closing) inner
  · exact takes_pure true _
  · rename_i ended
    cases ended

theorem takes_anotherItem_end (first : Bool) (blank : Blanks tail) :
    (anotherItem first).Takes tail (']' :: rest) false :=
  Takes.bind_last (takes_peekSolid_cons blank rfl) (takes_pure false _)

theorem takes_closeList : closeList.Takes [']'] rest () :=
  Takes.bind_ahead (takes_peekSolid_cons blanks_nil rfl) (takes_skip ']' rest)

variable {item : Reader Json} {ι : Type} {text : ι → List Char} {answer : ι → Option Json}

/-- The items of a list, as they are written and read one by one. -/
def ItemsAnswer (item : Reader Json) (text : ι → List Char) (answer : ι → Option Json)
    (items : List ι) : Prop :=
  ∀ x ∈ items, Opens (text x) ∧ ∀ rest, Stops rest → item.Answers (text x) rest (answer x)

theorem answers_items_cons {first : Bool} {steps : ℕ} {x : ι} {xs : List ι} {others : List Char}
    (more : (anotherItem first).Takes lead (text x ++ (others ++ ']' :: rest)) true)
    (reads : item.Answers (text x) (others ++ ']' :: rest) (answer x))
    (goesOn : (items item steps false).Answers others (']' :: rest) (xs.mapM answer)) :
    (items item (steps + 1) first).Answers (lead ++ (text x ++ others)) (']' :: rest)
      ((x :: xs).mapM answer) := by
  rw [mapM_cons_eq_bind]
  refine Takes.bind (by rwa [List.append_assoc]) ?_
  rw [if_pos rfl]
  exact reads.bind fun value _ => goesOn.bind_pure (value :: ·)

theorem answers_items_next {xs : List ι} (blank : Blanks lead) (blank_tail : Blanks tail)
    (reads : ItemsAnswer item text answer xs) {steps : ℕ} (enough : xs.length < steps) :
    (items item steps false).Answers (following lead (xs.map text) ++ tail) (']' :: rest)
      (xs.mapM answer) := by
  obtain ⟨fewer, rfl⟩ : ∃ fewer, steps = fewer + 1 := ⟨steps - 1, by omega⟩
  induction xs generalizing fewer with
  | nil => exact Takes.bind_last (takes_anotherItem_end false blank_tail) (takes_pure [] _)
  | cons x xs ih =>
    rw [List.length_cons] at enough
    obtain ⟨fewest, rfl⟩ : ∃ fewest, fewer = fewest + 1 := ⟨fewer - 1, by omega⟩
    obtain ⟨⟨opens, readsItem⟩, reads⟩ := List.forall_mem_cons.mp reads
    have stop : Stops (following lead (xs.map text) ++ tail ++ ']' :: rest) := by
      rw [List.append_assoc]
      exact stops_following lead _ (stops_append blank_tail (stops_cons (by decide)))
    have step := answers_items_cons (takes_anotherItem_next blank opens) (readsItem _ stop)
      (ih reads fewest (by omega))
    simpa [following] using step

/-- The items of a list are read from the first one to the bracket behind the last one. -/
theorem answers_items {spacing : Spacing} (blank : spacing.Blank) (level : ℕ) {xs : List ι}
    (reads : ItemsAnswer item text answer xs) {steps : ℕ} (enough : xs.length < steps) :
    (items item steps true).Answers (between spacing level (xs.map text)) (']' :: rest)
      (xs.mapM answer) := by
  obtain ⟨fewer, rfl⟩ : ∃ fewer, steps = fewer + 1 := ⟨steps - 1, by omega⟩
  cases xs with
  | nil => exact Takes.bind_last (takes_anotherItem_end true blanks_nil) (takes_pure [] _)
  | cons x xs =>
    rw [List.length_cons] at enough
    obtain ⟨⟨opens, readsItem⟩, reads⟩ := List.forall_mem_cons.mp reads
    have stop : Stops (following (spacing.lineBreak (level + 1)) (xs.map text)
        ++ spacing.lineBreak level ++ ']' :: rest) := by
      rw [List.append_assoc]
      exact stops_following _ _ (stops_append (blank.lineBreak level) (stops_cons (by decide)))
    exact answers_items_cons (takes_anotherItem_first (blank.lineBreak _) opens) (readsItem _ stop)
      (answers_items_next (blank.lineBreak _) (blank.lineBreak _) reads (by omega))

/-- A list reads as the list of what its items read as. -/
theorem answers_list {spacing : Spacing} (blank : spacing.Blank) (level : ℕ) {blanks : List Char}
    (blank_before : Blanks blanks) {xs : List ι} (reads : ItemsAnswer item text answer xs) :
    (list item).Answers (blanks ++ enclose spacing level '[' ']' (xs.map text)) rest
      ((xs.mapM answer).map .list) := by
  have commas := length_le_between spacing level (xs.map text)
  rw [List.length_map] at commas
  rw [enclose_eq]
  refine Takes.bind (takes_startOfValue blank_before rfl) ?_
  refine (takes_skip '[' (between spacing level (xs.map text) ++ [']'] ++ rest)).bind ?_
  refine Takes.bind_ahead (takes_steps _) ?_
  refine Answers.bind_pure Json.list (Answers.placed ?_)
  refine Answers.thenClose (answers_items blank level reads ?_) takes_closeList
  simp only [List.length_append, List.length_cons]
  omega

end Items

/-! ## Records -/

section Fields

variable {lead tail rest : List Char}

theorem takes_anotherField_first (blank : Blanks lead) :
    (anotherField true).Takes lead ('"' :: rest) true :=
  Takes.bind_last (takes_peekSolid_cons blank rfl) (takes_pure true _)

theorem takes_anotherField_next (blank : Blanks lead) :
    (anotherField false).Takes (',' :: lead) ('"' :: rest) true := by
  refine Takes.bind_ahead (takes_peekSolid_cons blanks_nil rfl) ?_
  refine (takes_skip ',' (lead ++ '"' :: rest)).bind ?_
  exact Takes.bind_last (takes_peekSolid_cons blank rfl) (takes_pure true _)

theorem takes_anotherField_end (first : Bool) (blank : Blanks tail) :
    (anotherField first).Takes tail ('\x7d' :: rest) false :=
  Takes.bind_last (takes_peekSolid_cons blank rfl) (takes_pure false _)

theorem takes_colon : colon.Takes [':'] rest () :=
  Takes.bind_ahead (takes_peekSolid_cons blanks_nil rfl) (takes_skip ':' rest)

theorem takes_closeRecord : closeRecord.Takes ['\x7d'] rest () :=
  Takes.bind_ahead (takes_peekSolid_cons blanks_nil rfl) (takes_skip '\x7d' rest)

variable {slots : List Slot} {ι : Type} {name : ι → String} {text : ι → List Char}
  {answer : ι → Option Json}

/-- A field as it is written. -/
def fieldText (name : ι → String) (text : ι → List Char) (x : ι) : List Char :=
  quote (name x) ++ ':' :: text x

/-- The fields of a record, as their values are written and read one by one. -/
def FieldsAnswer (slots : List Slot) (name : ι → String) (text : ι → List Char)
    (answer : ι → Option Json) (fields : List ι) : Prop :=
  ∀ x ∈ fields, ∃ slot, slots.find? (·.name == name x) = some slot ∧
    ∀ rest, Stops rest → slot.read.Answers (text x) rest (answer x)

/-- The values of the fields with their names. -/
def named (name : ι → String) (answer : ι → Option Json) (fields : List ι) :
    Option (List (String × Json)) :=
  fields.mapM fun x => (answer x).map (name x, ·)

/-- The fields of the slots in order, from those that were named. -/
def arranged (slots : List Slot) (named : List (String × Json)) : Option (List (String × Json)) :=
  slots.mapM fun slot => ((named.lookup slot.name).or slot.ifUnnamed).map (slot.name, ·)

theorem named_cons (x : ι) (xs : List ι) :
    named name answer (x :: xs)
      = (answer x).bind fun value => (named name answer xs).map ((name x, value) :: ·) := by
  rw [named, mapM_cons_eq_bind, Option.bind_map]
  rfl

theorem answers_namedFields_cons {first : Bool} {steps : ℕ} {taken : List (String × Json)}
    {slot : Slot} {x : ι} {xs : List ι} {others : List Char}
    (more : (anotherField first).Takes lead
      (fieldText name text x ++ (others ++ '\x7d' :: rest)) true)
    (known : slots.find? (·.name == name x) = some slot) (fresh : taken.lookup (name x) = none)
    (reads : slot.read.Answers (text x) (others ++ '\x7d' :: rest) (answer x))
    (goesOn : ∀ value, (namedFields slots steps false (taken ++ [(name x, value)])).Answers others
      ('\x7d' :: rest) ((named name answer xs).map ((taken ++ [(name x, value)]) ++ ·))) :
    (namedFields slots (steps + 1) first taken).Answers (lead ++ (fieldText name text x ++ others))
      ('\x7d' :: rest) ((named name answer (x :: xs)).map (taken ++ ·)) := by
  have collected : (named name answer (x :: xs)).map (taken ++ ·)
      = (answer x).bind fun value =>
          (named name answer xs).map ((taken ++ [(name x, value)]) ++ ·) := by
    rw [named_cons, Option.map_bind]
    congr 1
    funext value
    simp [Function.comp_def]
  rw [collected]
  refine Takes.bind (by rwa [List.append_assoc]) ?_
  rw [if_pos rfl, fieldText, quote, List.cons_append, List.cons_append, List.append_assoc]
  refine (takes_skip '"' _).bind ?_
  refine Takes.bind (takes_string (name x) _) ?_
  rw [known]
  dsimp only
  rw [fresh, if_neg (by decide)]
  refine takes_colon.bind ?_
  exact reads.bind fun value _ => goesOn value

/-- A field that was just taken is none of those that follow. -/
theorem lookup_append_eq_none {taken : List (String × Json)} {x : ι} {xs : List ι}
    (fresh : ∀ y ∈ xs, taken.lookup (name y) = none) (absent : name x ∉ xs.map name)
    (value : Json) : ∀ y ∈ xs, (taken ++ [(name x, value)]).lookup (name y) = none := by
  intro y member
  have other : name y ≠ name x := by
    intro same
    exact absent (same ▸ List.mem_map_of_mem member)
  rw [List.lookup_append, fresh y member, List.lookup_cons, beq_eq_false_iff_ne.mpr other]
  rfl

theorem answers_namedFields_next {xs : List ι} (blank : Blanks lead) (blank_tail : Blanks tail)
    (reads : FieldsAnswer slots name text answer xs) (nodup : (xs.map name).Nodup) {steps : ℕ}
    (enough : xs.length < steps) {taken : List (String × Json)}
    (fresh : ∀ x ∈ xs, taken.lookup (name x) = none) :
    (namedFields slots steps false taken).Answers
      (following lead (xs.map (fieldText name text)) ++ tail) ('\x7d' :: rest)
      ((named name answer xs).map (taken ++ ·)) := by
  obtain ⟨fewer, rfl⟩ : ∃ fewer, steps = fewer + 1 := ⟨steps - 1, by omega⟩
  induction xs generalizing fewer taken with
  | nil =>
    refine Takes.bind_last (takes_anotherField_end false blank_tail) ?_
    have none_left : (named name answer []).map (taken ++ ·) = some taken := by
      simp [named]
    rw [none_left]
    exact takes_pure taken _
  | cons x xs ih =>
    rw [List.length_cons] at enough
    obtain ⟨fewest, rfl⟩ : ∃ fewest, fewer = fewest + 1 := ⟨fewer - 1, by omega⟩
    obtain ⟨⟨slot, known, readsField⟩, reads⟩ := List.forall_mem_cons.mp reads
    obtain ⟨absent, nodup⟩ := List.nodup_cons.mp nodup
    obtain ⟨fresh_x, fresh⟩ := List.forall_mem_cons.mp fresh
    have stop : Stops (following lead (xs.map (fieldText name text)) ++ tail ++ '\x7d' :: rest) := by
      rw [List.append_assoc]
      exact stops_following lead _ (stops_append blank_tail (stops_cons (by decide)))
    have step := answers_namedFields_cons (takes_anotherField_next blank) known fresh_x
      (readsField _ stop) fun value =>
        ih reads nodup (lookup_append_eq_none fresh absent value) fewest (by omega)
    simpa [following] using step

/-- The named fields of a record are read from the first one to the bracket behind the last one. -/
theorem answers_namedFields {spacing : Spacing} (blank : spacing.Blank) (level : ℕ) {xs : List ι}
    (reads : FieldsAnswer slots name text answer xs) (nodup : (xs.map name).Nodup) {steps : ℕ}
    (enough : xs.length < steps) :
    (namedFields slots steps true []).Answers
      (between spacing level (xs.map (fieldText name text))) ('\x7d' :: rest)
      (named name answer xs) := by
  obtain ⟨fewer, rfl⟩ : ∃ fewer, steps = fewer + 1 := ⟨steps - 1, by omega⟩
  cases xs with
  | nil => exact Takes.bind_last (takes_anotherField_end true blanks_nil) (takes_pure [] _)
  | cons x xs =>
    rw [List.length_cons] at enough
    obtain ⟨⟨slot, known, readsField⟩, reads⟩ := List.forall_mem_cons.mp reads
    obtain ⟨absent, nodup⟩ := List.nodup_cons.mp nodup
    have stop : Stops (following (spacing.lineBreak (level + 1)) (xs.map (fieldText name text))
        ++ spacing.lineBreak level ++ '\x7d' :: rest) := by
      rw [List.append_assoc]
      exact stops_following _ _ (stops_append (blank.lineBreak level) (stops_cons (by decide)))
    have fresh : ∀ y ∈ xs, ([] : List (String × Json)).lookup (name y) = none := fun _ _ => rfl
    have step := answers_namedFields_cons (takes_anotherField_first (blank.lineBreak (level + 1)))
      known rfl (readsField _ stop) fun value =>
        answers_namedFields_next (blank.lineBreak (level + 1)) (blank.lineBreak level) reads nodup
          (show xs.length < fewer by omega) (lookup_append_eq_none fresh absent value)
    simpa [between] using step

/-- The slots are filled in order; one without a value is missing. -/
theorem answers_arrange (values : List (String × Json)) (slots : List Slot) (rest : List Char) :
    (arrange values slots).Answers [] rest (arranged slots values) := by
  induction slots with
  | nil => exact takes_pure [] rest
  | cons slot slots ih =>
    rw [arranged, mapM_cons_eq_bind, arrange]
    cases (values.lookup slot.name).or slot.ifUnnamed with
    | some value => exact ih.bind_pure ((slot.name, value) :: ·)
    | none => exact refuses_failWhole _ _

/-- A record with named fields reads as the record of what its fields read as, in the order of the
slots. -/
theorem answers_record {spacing : Spacing} (blank : spacing.Blank) (level : ℕ) {blanks : List Char}
    (blank_before : Blanks blanks) (title : String) {xs : List ι}
    (reads : FieldsAnswer slots name text answer xs) (nodup : (xs.map name).Nodup) :
    (record title slots).Answers
      (blanks ++ enclose spacing level '\x7b' '\x7d' (xs.map (fieldText name text))) rest
      (((named name answer xs).bind (arranged slots)).map .record) := by
  have commas := length_le_between spacing level (xs.map (fieldText name text))
  rw [List.length_map] at commas
  rw [enclose_eq]
  refine Takes.bind (takes_startOfValue blank_before rfl) ?_
  refine (takes_skip '\x7b' (between spacing level _ ++ ['\x7d'] ++ rest)).bind ?_
  refine Takes.bind_ahead (takes_steps _) ?_
  refine Answers.bind_pure Json.record (Answers.placed ?_)
  refine Answers.thenClose ?_ takes_closeRecord
  have enough : xs.length
      < (between spacing level (xs.map (fieldText name text)) ++ ['\x7d'] ++ rest).length + 1 := by
    simp only [List.length_append, List.length_cons]
    omega
  exact (answers_namedFields blank level reads nodup enough).bind_last
    fun values _ => answers_arrange values slots _

end Fields

end Reader

end KMeansSeeding.Json
