import KMeansSeeding.Proofs.Json.Composites
import KMeansSeeding.Proofs.Json.Floats

/-!
# Written values read back

`Legible spacing shape written answer` says what a written value is worth to the reader of a shape,
wherever in a document it stands: it reads as the value of `answer`, or is refused if there is none.
There is a lemma for each kind of value and of shape that go together; those for lists and records
take what is known about their parts. Fields may be written in any order, and some may be left out
(`legible_record`). A whole text is legible like the value it is written from (`Legible.toOption_parse`).
-/

namespace KMeansSeeding.Json

open Reader

/-- Where a number ends, a value that was written reads in a shape as the value of `answer`, or is
refused if there is none. -/
def Legible (spacing : Spacing) (shape : Shape) (written : Json) (answer : Option Json) : Prop :=
  ∀ level blanks rest, Blanks blanks → Stops rest →
    shape.read.Answers (blanks ++ written.render spacing level) rest answer

variable {spacing : Spacing}

/-! ## Whole texts -/

section Whole

variable {shape : Shape} {written : Json} {answer : Option Json} {trailing : List Char}

theorem answers_whole (legible : Legible spacing shape written answer) (blank : Blanks trailing) :
    shape.whole.Answers (written.render spacing 0 ++ trailing) [] answer := by
  have stop := stops_append blank stops_nil
  have read := legible 0 [] (trailing ++ []) blanks_nil stop
  have both : shape.whole.Answers (written.render spacing 0 ++ trailing) [] (answer.bind some) :=
    Answers.bind read fun value _ =>
      Takes.bind_last (takes_peekSolid blank nofun) (takes_pure value [])
  rwa [Option.bind_fun_some] at both

/-- Reading a text answers like its value, also with blanks behind it. -/
theorem Legible.toOption_parse (legible : Legible spacing shape written answer)
    (blank : Blanks trailing) :
    (shape.parse (String.ofList (written.render spacing 0 ++ trailing))).toOption = answer := by
  have read := answers_whole legible blank
  have start : Cursor.ofText (String.ofList (written.render spacing 0 ++ trailing))
      = ⟨written.render spacing 0 ++ trailing ++ [], .start⟩ := by
    rw [Cursor.ofText, String.toList_ofList, List.append_nil]
  rw [Shape.parse, start]
  cases answer with
  | some value =>
    rw [read .start]
    rfl
  | none =>
    obtain ⟨failure, stop, failed⟩ := read .start
    rw [failed]
    rfl

end Whole

/-! ## Leaves -/

theorem legible_flag (value : Bool) : Legible spacing .flag (.flag value) (some (.flag value)) := by
  intro level blanks rest blank stop
  cases value with
  | true =>
    refine Takes.bind (takes_startOfValue blank rfl) ?_
    exact (takes_word ['t', 'r', 'u', 'e'] rest).bind_last (takes_pure _ rest)
  | false =>
    refine Takes.bind (takes_startOfValue blank rfl) ?_
    exact (takes_word ['f', 'a', 'l', 's', 'e'] rest).bind_last (takes_pure _ rest)

section Numbers

theorem isBlank_of_isDigit {c : Char} (digit : c.isDigit = true) : Cursor.isBlank c = false := by
  cases blank : Cursor.isBlank c with
  | false => rfl
  | true =>
    rw [(end_of_isBlank blank).1] at digit
    cases digit

variable {blanks rest : List Char}

/-- A number is taken with its sign. -/
theorem answers_numeral {text : List Char} {negated : Bool} {answer : Option Numeral}
    (expected : String) (blank : Blanks blanks) (digit : ∃ c ∈ text.head?, c.isDigit = true)
    (answers : (number negated).Answers text rest answer) :
    (numeral expected).Answers (blanks ++ (minus negated ++ text)) rest answer := by
  obtain ⟨c, head, digit⟩ := digit
  obtain ⟨others, rfl⟩ := List.head?_eq_some_iff.mp head
  cases negated with
  | true =>
    refine Takes.bind (takes_startOfValue blank rfl) ?_
    exact (takes_skip '-' (c :: others ++ rest)).bind answers
  | false =>
    refine Takes.bind (takes_startOfValue blank (isBlank_of_isDigit digit)) ?_
    have positive : c ≠ '-' := by
      rintro rfl
      exact absurd digit (by decide)
    rw [if_neg positive, if_pos digit]
    exact answers

theorem refuses_null (expected : String) (blank : Blanks blanks) :
    (numeral expected).Answers (blanks ++ ['n', 'u', 'l', 'l']) rest none := by
  refine Takes.bind (takes_startOfValue blank rfl) ?_
  refine Takes.bind_ahead (takes_peek _) ?_
  refine (takes_word ['n', 'u', 'l', 'l'] rest).bind_last ?_
  exact refuses_failHere _ rest

/-- A natural number of at most 64 bits is legible. -/
theorem legible_natural (expected : String) {value : ℕ} (small : value < 2 ^ 64) :
    Legible spacing (.natural expected) (.natural value) (some (.natural value)) := by
  intro level blanks rest blank stop
  have within : value ≤ Numeral.significandLimit := by
    have : Numeral.significandLimit = 2 ^ 64 - 1 := rfl
    omega
  obtain ⟨c, digit, head⟩ := exists_head_digitsOf value []
  rw [List.append_nil] at head
  have taken := answers_numeral expected blank ⟨c, head, digit⟩ (takes_digitsOf within stop)
  exact Takes.bind_last taken (takes_pure _ rest)

section Floats

variable {style : NumberStyle} {layout : Layout} {negative : Bool} {significand : ℕ} {exponent : ℤ}

/-- The text of a float is a number text everywhere, and that of a small float reads as a float. -/
theorem exists_answers_float (pointed : Pointed style) (layout : Layout) (negative : Bool)
    (least : -2000 ≤ exponent + (significand.log2 : ℤ))
    (greatest : exponent + (significand.log2 : ℤ) ≤ 2000) :
    ∃ answer : Option Float,
      (∀ expected blanks rest, Blanks blanks → Stops rest →
        (numeral expected).Answers
          (blanks ++ (style.ofReading layout (.finite negative significand exponent)).toList) rest
          (answer.map .floating)) ∧
      (exponent + (significand.log2 : ℤ) < 200 → answer.isSome = true) := by
  obtain ⟨figures, sound, small, text_eq⟩ := exists_figures pointed layout negative least greatest
  refine ⟨figures.value negative, fun expected blanks rest blank stop => ?_, fun below => ?_⟩
  · rw [text_eq]
    refine answers_numeral expected blank ?_ (answers_figures sound style negative stop)
    obtain ⟨c, others, whole⟩ := List.exists_cons_of_ne_nil sound.whole_ne_nil
    refine ⟨c, ?_, sound.whole_digits c (whole ▸ List.mem_cons_self)⟩
    rw [Figures.text, whole]
    rfl
  · exact figures.isSome_value sound (small.trans (by omega)) negative

end Floats

/-- The leading bit of a finite double is where exponents of doubles reach. -/
theorem exists_ofDouble {value : Float} (finite : value.isFinite = true) :
    ∃ negative significand exponent, Reading.ofDouble value = .finite negative significand exponent ∧
      -2000 ≤ exponent + (significand.log2 : ℤ) ∧ exponent + (significand.log2 : ℤ) ≤ 2000 := by
  obtain ⟨negative, significand, exponent, reads⟩ := isFinite_iff_ofDouble.mp finite
  obtain ⟨digits, least, -, greatest⟩ := holds_of_decode reads
  have length : significand.log2 < 53 := log2_lt_of_lt (by decide) digits
  have lowest : Layout.double.leastExponent = -1074 := rfl
  have top : Layout.double.topField = 2047 := rfl
  exact ⟨negative, significand, exponent, reads, by omega, by omega⟩

theorem exists_ofSingle {value : Float32} (finite : value.isFinite = true) :
    ∃ negative significand exponent, Reading.ofSingle value = .finite negative significand exponent ∧
      -2000 ≤ exponent + (significand.log2 : ℤ) ∧ exponent + (significand.log2 : ℤ) < 200 := by
  obtain ⟨negative, significand, exponent, reads, digits, least, greatest⟩ :=
    single_of_isFinite finite
  have length : significand.log2 < 24 := log2_lt_of_lt (by decide) digits
  exact ⟨negative, significand, exponent, reads, by omega, by omega⟩

/-- A finite double is written as a number, whatever that reads as. -/
theorem legible_double {value : Float} (finite : value.isFinite = true) :
    ∃ answer : Option Float,
      (∀ spacing, Legible spacing .double (.double value) (answer.map .double)) ∧
      (|numberOfDouble value| < 2 ^ (199 : ℤ) → answer.isSome = true) := by
  obtain ⟨negative, significand, exponent, reads, least, greatest⟩ := exists_ofDouble finite
  obtain ⟨answer, answers, accepted⟩ :=
    exists_answers_float pointed_doubleStyle .double negative least greatest
  have text_eq : doubleText value
      = doubleStyle.ofReading .double (.finite negative significand exponent) := by
    rw [doubleText, if_pos finite, NumberStyle.ofDouble, reads]
  refine ⟨answer, fun spacing level blanks rest blank stop => ?_, fun small => accepted ?_⟩
  · have read := (answers "f64" blanks rest blank stop).bind_pure fun numeral =>
      Json.double numeral.toDouble
    rw [Option.map_map, ← text_eq] at read
    exact read
  · rcases Nat.eq_zero_or_pos significand with rfl | positive
    · -- a zero is on the finest grid
      obtain ⟨-, -, leading, -⟩ := holds_of_decode reads
      have lowest : Layout.double.leastExponent = -1074 := rfl
      have hidden : ¬ 2 ^ Layout.double.fractionBits ≤ 0 := by decide
      have := leading.resolve_right hidden
      have : Nat.log2 0 = 0 := by decide
      omega
    · rw [abs_numberOfDouble reads] at small
      have := two_zpow_lt.mp ((two_zpow_log2_le positive exponent).trans_lt small)
      omega

/-- A single is legible exactly if it is finite, since JSON has no text for any other. -/
theorem legible_single (value : Float32) :
    ∃ answer : Option Float32,
      (∀ spacing, Legible spacing .single (.single value) (answer.map .single)) ∧
      (answer.isSome = true ↔ value.isFinite = true) := by
  by_cases finite : value.isFinite = true
  · obtain ⟨negative, significand, exponent, reads, least, greatest⟩ := exists_ofSingle finite
    obtain ⟨answer, answers, accepted⟩ :=
      exists_answers_float pointed_singleStyle .single negative least (by omega)
    obtain ⟨float, rfl⟩ := Option.isSome_iff_exists.mp (accepted greatest)
    refine ⟨some (narrowDouble float), fun spacing level blanks rest blank stop => ?_, by simp [finite]⟩
    have text_eq : singleText value
        = singleStyle.ofReading .single (.finite negative significand exponent) := by
      rw [singleText, if_pos finite, NumberStyle.ofSingle, reads]
    have read := (answers "f32" blanks rest blank stop).bind_pure fun numeral =>
      Json.single numeral.toSingle
    rw [← text_eq] at read
    exact read
  · refine ⟨none, fun spacing level blanks rest blank stop => ?_, by simp [finite]⟩
    have read := (refuses_null "f32" blank : (numeral "f32").Answers _ rest none).bind_pure
      fun numeral => Json.single numeral.toSingle
    have text_eq : singleText value = "null" := by rw [singleText, if_neg finite]
    show Shape.single.read.Answers (blanks ++ (singleText value).toList) rest none
    rw [text_eq]
    exact read

end Numbers

/-! ## What a value starts with -/

/-- A sign or a digit. -/
def StartsNumber (text : List Char) : Prop :=
  ∃ c ∈ text.head?, c = '-' ∨ c.isDigit = true

theorem StartsNumber.opens {text : List Char} (starts : StartsNumber text) : Opens text := by
  obtain ⟨c, head, rfl | digit⟩ := starts
  · exact ⟨_, head, by decide, by decide⟩
  · refine ⟨c, head, isBlank_of_isDigit digit, ?_⟩
    rintro rfl
    exact absurd digit (by decide)

theorem startsNumber_digitsOf (value : ℕ) : StartsNumber (Decimal.digitsOf value) := by
  obtain ⟨c, digit, head⟩ := exists_head_digitsOf value []
  rw [List.append_nil] at head
  exact ⟨c, head, .inr digit⟩

theorem startsNumber_float {style : NumberStyle} (pointed : Pointed style) (layout : Layout)
    (negative : Bool) {significand : ℕ} {exponent : ℤ}
    (least : -2000 ≤ exponent + (significand.log2 : ℤ))
    (greatest : exponent + (significand.log2 : ℤ) ≤ 2000) :
    StartsNumber (style.ofReading layout (.finite negative significand exponent)).toList := by
  obtain ⟨figures, sound, -, text_eq⟩ := exists_figures pointed layout negative least greatest
  obtain ⟨c, others, whole⟩ := List.exists_cons_of_ne_nil sound.whole_ne_nil
  rw [text_eq, Figures.text, whole]
  cases negative with
  | true => exact ⟨'-', rfl, .inl rfl⟩
  | false => exact ⟨c, rfl, .inr (sound.whole_digits c (whole ▸ List.mem_cons_self))⟩

theorem startsNumber_doubleText {value : Float} (finite : value.isFinite = true) :
    StartsNumber (doubleText value).toList := by
  obtain ⟨negative, significand, exponent, reads, least, greatest⟩ := exists_ofDouble finite
  rw [doubleText, if_pos finite, NumberStyle.ofDouble, reads]
  exact startsNumber_float pointed_doubleStyle .double negative least greatest

theorem startsNumber_singleText {value : Float32} (finite : value.isFinite = true) :
    StartsNumber (singleText value).toList := by
  obtain ⟨negative, significand, exponent, reads, least, greatest⟩ := exists_ofSingle finite
  rw [singleText, if_pos finite, NumberStyle.ofSingle, reads]
  exact startsNumber_float pointed_singleStyle .single negative least (by omega)

/-- No value starts with a blank or with the end of a list. -/
theorem opens_render (spacing : Spacing) (level : ℕ) (value : Json) :
    Opens (value.render spacing level) := by
  cases value with
  | null => exact ⟨'n', rfl, by decide, by decide⟩
  | flag value =>
    cases value with
    | true => exact ⟨'t', rfl, by decide, by decide⟩
    | false => exact ⟨'f', rfl, by decide, by decide⟩
  | natural value => exact (startsNumber_digitsOf value).opens
  | single value =>
    by_cases finite : value.isFinite = true
    · exact (startsNumber_singleText finite).opens
    · have text_eq : singleText value = "null" := by rw [singleText, if_neg finite]
      rw [Json.render, text_eq]
      exact ⟨'n', rfl, by decide, by decide⟩
  | double value =>
    by_cases finite : value.isFinite = true
    · exact (startsNumber_doubleText finite).opens
    · have text_eq : doubleText value = "null" := by rw [doubleText, if_neg finite]
      rw [Json.render, text_eq]
      exact ⟨'n', rfl, by decide, by decide⟩
  | text value => exact ⟨'"', rfl, by decide, by decide⟩
  | list items =>
    rw [Json.render, enclose_eq]
    exact ⟨'[', rfl, by decide, by decide⟩
  | record fields =>
    rw [Json.render, enclose_eq]
    exact ⟨'\x7b', rfl, by decide, by decide⟩

/-! ## Null -/

section Null

variable {shape : Shape} {written : Json} {answer : Option Json}

theorem legible_null (shape : Shape) : Legible spacing (.nullable shape) .null (some .null) := by
  intro level blanks rest blank stop
  refine Takes.bind (takes_peekSolid_cons blank rfl) ?_
  exact (takes_word ['n', 'u', 'l', 'l'] rest).bind_last (takes_pure _ rest)

/-- A number is not taken for null. -/
theorem legible_nullable (legible : Legible spacing shape written answer)
    (starts : ∀ level, StartsNumber (written.render spacing level)) :
    Legible spacing (.nullable shape) written answer := by
  intro level blanks rest blank stop
  obtain ⟨c, head, number⟩ := starts level
  have read := legible level [] rest blanks_nil stop
  obtain ⟨others, written_eq⟩ := List.head?_eq_some_iff.mp head
  rw [List.nil_append, written_eq] at read
  rw [written_eq]
  have other : c ≠ 'n' := by
    rintro rfl
    exact absurd number (by decide)
  have solid : Cursor.isBlank c = false := by
    rcases number with rfl | digit
    · decide
    · exact isBlank_of_isDigit digit
  refine Takes.bind (takes_peekSolid_cons blank solid) ?_
  split
  · rename_i same
    exact absurd (Option.some.inj same) other
  · exact read

end Null

/-! ## Lists and records -/

theorem renderItems_eq_map (spacing : Spacing) (level : ℕ) (items : List Json) :
    renderItems spacing level items = items.map (render spacing level) := by
  induction items with
  | nil => rfl
  | cons item items ih => rw [renderItems, ih, List.map_cons]

theorem renderFields_eq_map (spacing : Spacing) (level : ℕ) (fields : List (String × Json)) :
    renderFields spacing level fields
      = fields.map (fieldText Prod.fst fun field =>
          spacing.afterColon ++ render spacing level field.2) := by
  induction fields with
  | nil => rfl
  | cons field fields ih =>
    rw [renderFields, ih, List.map_cons, fieldText]
    simp

/-- A list is legible as the list of what its items read as. -/
theorem legible_list (blank : spacing.Blank) {shape : Shape} {ι : Type} {encode : ι → Json}
    {answer : ι → Option Json} {xs : List ι}
    (items : ∀ x ∈ xs, Legible spacing shape (encode x) (answer x)) :
    Legible spacing (.list shape) (.list (xs.map encode)) ((xs.mapM answer).map .list) := by
  intro level blanks rest blank_before stop
  rw [Json.render, renderItems_eq_map, List.map_map]
  refine answers_list blank level blank_before fun x member => ⟨opens_render _ _ _, ?_⟩
  exact fun rest stop => items x member (level + 1) [] rest blanks_nil stop

section Records

variable {fields : List (String × Shape × Option Json × Option Json)}

theorem slots_eq_map (fields : List (String × Shape × Option Json × Option Json)) :
    Shape.slots fields
      = fields.map fun (name, shape, ifUnnamed, ifUnlisted) =>
          ⟨name, ifUnnamed, ifUnlisted, shape.read⟩ := by
  induction fields with
  | nil => rfl
  | cons field fields ih => rw [Shape.slots, ih, List.map_cons]

/-- Slots with different names are found by their names. -/
theorem find?_slots (nodup : (fields.map Prod.fst).Nodup)
    {field : String × Shape × Option Json × Option Json} (member : field ∈ fields) :
    (Shape.slots fields).find? (·.name == field.1)
      = some ⟨field.1, field.2.2.1, field.2.2.2, field.2.1.read⟩ := by
  induction fields with
  | nil => cases member
  | cons first others ih =>
    obtain ⟨absent, nodup⟩ := List.nodup_cons.mp nodup
    rw [Shape.slots]
    rcases List.mem_cons.mp member with rfl | member
    · exact List.find?_cons_of_pos (beq_self_eq_true field.1)
    · have other : first.1 ≠ field.1 := by
        intro same
        exact absent (same ▸ List.mem_map_of_mem member)
      rw [List.find?_cons_of_neg (by simpa using other)]
      exact ih nodup member

theorem lookup_map (value : String → Json) (names : List String) (name : String) :
    (names.map fun name => (name, value name)).lookup name
      = if name ∈ names then some (value name) else none := by
  induction names with
  | nil => rfl
  | cons first names ih =>
    rw [List.map_cons, List.lookup_cons]
    by_cases same : name = first
    · simp [same]
    · rw [beq_eq_false_iff_ne.mpr same, ih]
      simp [same]

/-- Filling the slots does not depend on the order in which their values were named. -/
theorem bind_arranged {ι : Type} {name : ι → String} {answer : String → Option Json} {xs : List ι}
    {slots : List Slot} (known : ∀ x ∈ xs, ∃ slot ∈ slots, slot.name = name x) :
    (named name (fun x => answer (name x)) xs).bind (arranged slots)
      = slots.mapM fun slot =>
          (if slot.name ∈ xs.map name then answer slot.name else slot.ifUnnamed).map
            (slot.name, ·) := by
  by_cases complete : ∀ x ∈ xs, (answer (name x)).isSome = true
  · let value (name : String) : Json := (answer name).getD .null
    have all : named name (fun x => answer (name x)) xs
        = some ((xs.map name).map fun name => (name, value name)) := by
      rw [List.map_map]
      refine mapM_eq_some_map fun x member => ?_
      obtain ⟨found, answered⟩ := Option.isSome_iff_exists.mp (complete x member)
      simp [value, answered]
    rw [all, Option.bind_some, arranged]
    congr 1
    funext slot
    rw [lookup_map]
    by_cases member : slot.name ∈ xs.map name
    · obtain ⟨x, x_mem, same⟩ := List.mem_map.mp member
      obtain ⟨found, answered⟩ := Option.isSome_iff_exists.mp (complete x x_mem)
      rw [same] at answered
      simp only [if_pos member, value, answered]
      rfl
    · simp only [if_neg member, Option.none_or]
  · -- a value without an answer leaves its slot without one
    simp only [not_forall] at complete
    obtain ⟨x, x_mem, missing⟩ := complete
    obtain ⟨slot, slot_mem, same⟩ := known x x_mem
    rw [Option.not_isSome_iff_eq_none] at missing
    have member : slot.name ∈ xs.map name := same ▸ List.mem_map_of_mem x_mem
    rw [named, mapM_eq_none x_mem (by rw [missing]; rfl),
      mapM_eq_none slot_mem (by rw [if_pos member, same, missing]; rfl)]
    rfl

/-- A record is legible with some of its fields written in any order. Fields that were not written
are filled with what stands in for them. -/
theorem legible_record (blank : spacing.Blank) (title : String)
    (nodup : (fields.map Prod.fst).Nodup) {written : List (String × Json)}
    (distinct : (written.map Prod.fst).Nodup) {answer : String → Option Json}
    (known : ∀ entry ∈ written, ∃ field ∈ fields, field.1 = entry.1 ∧
      Legible spacing field.2.1 entry.2 (answer entry.1)) :
    Legible spacing (.record title fields) (.record written)
      ((fields.mapM fun field =>
        (if field.1 ∈ written.map Prod.fst then answer field.1 else field.2.2.1).map
          (field.1, ·)).map .record) := by
  intro level blanks rest blank_before stop
  have reads : FieldsAnswer (Shape.slots fields) Prod.fst
      (fun entry => spacing.afterColon ++ render spacing (level + 1) entry.2)
      (fun entry => answer entry.1) written := by
    intro entry member
    obtain ⟨field, field_mem, same, legible⟩ := known entry member
    refine ⟨_, same ▸ find?_slots nodup field_mem, fun rest stop => ?_⟩
    exact legible (level + 1) spacing.afterColon rest blank.afterColon stop
  have slotted : ∀ entry ∈ written, ∃ slot ∈ Shape.slots fields, slot.name = entry.1 := by
    intro entry member
    obtain ⟨field, field_mem, same, -⟩ := known entry member
    refine ⟨_, List.mem_of_find?_eq_some (find?_slots nodup field_mem), same⟩
  have values : (named Prod.fst (fun entry => answer entry.1) written).bind
      (arranged (Shape.slots fields)) = fields.mapM fun field =>
        (if field.1 ∈ written.map Prod.fst then answer field.1 else field.2.2.1).map
          (field.1, ·) := by
    rw [bind_arranged slotted, slots_eq_map, List.mapM_map]
    rfl
  rw [Json.render, renderFields_eq_map, ← values]
  exact answers_record blank level blank_before title reads distinct

theorem lookup_of_mem {α : Type} {entries : List (String × α)}
    (nodup : (entries.map Prod.fst).Nodup) {entry : String × α} (member : entry ∈ entries) :
    entries.lookup entry.1 = some entry.2 := by
  induction entries with
  | nil => cases member
  | cons first others ih =>
    obtain ⟨absent, nodup⟩ := List.nodup_cons.mp nodup
    rcases List.mem_cons.mp member with rfl | member
    · exact List.lookup_cons_self
    · have other : entry.1 ≠ first.1 := by
        intro same
        exact absent (same ▸ List.mem_map_of_mem member)
      rw [List.lookup_cons, beq_eq_false_iff_ne.mpr other]
      exact ih nodup member

/-- A field of a record, its value as written, and what that reads as. -/
structure Entry where
  field : String × Shape × Option Json × Option Json
  written : Json
  answer : Option Json

/-- A record with all its fields in order reads as the record of what these read as. -/
theorem legible_record_of_entries (blank : spacing.Blank) (title : String) {entries : List Entry}
    (nodup : (entries.map fun entry => entry.field.1).Nodup)
    (reads : ∀ entry ∈ entries, Legible spacing entry.field.2.1 entry.written entry.answer) :
    Legible spacing (.record title (entries.map Entry.field))
      (.record (entries.map fun entry => (entry.field.1, entry.written)))
      ((entries.mapM fun entry : Entry => entry.answer.map (entry.field.1, ·)).map .record) := by
  let answer (name : String) : Option Json :=
    ((entries.map fun entry => (entry.field.1, entry.answer)).lookup name).bind id
  have answered : ∀ entry ∈ entries, answer entry.field.1 = entry.answer := by
    intro entry member
    have found := lookup_of_mem (by rwa [List.map_map]) (List.mem_map_of_mem member :
      (entry.field.1, entry.answer) ∈ entries.map fun entry => (entry.field.1, entry.answer))
    simp only [answer, found]
    rfl
  have known : ∀ written ∈ entries.map fun entry => (entry.field.1, entry.written),
      ∃ field ∈ entries.map Entry.field, field.1 = written.1 ∧
        Legible spacing field.2.1 written.2 (answer written.1) := by
    intro written member
    obtain ⟨entry, entry_mem, rfl⟩ := List.mem_map.mp member
    refine ⟨entry.field, List.mem_map_of_mem entry_mem, rfl, ?_⟩
    dsimp only
    rw [answered entry entry_mem]
    exact reads entry entry_mem
  have values : (entries.map Entry.field).mapM (fun field =>
      (if field.1 ∈ (entries.map fun entry => (entry.field.1, entry.written)).map Prod.fst
        then answer field.1 else field.2.2.1).map (field.1, ·))
      = entries.mapM fun entry : Entry => entry.answer.map (entry.field.1, ·) := by
    rw [List.mapM_map, List.map_map]
    refine mapM_congr fun entry member => ?_
    have present : entry.field.1
        ∈ entries.map (Prod.fst ∘ fun entry => (entry.field.1, entry.written)) :=
      List.mem_map_of_mem (f := Prod.fst ∘ fun entry : Entry => (entry.field.1, entry.written)) member
    dsimp only [Function.comp_apply]
    rw [if_pos present, answered entry member]
  rw [← values]
  exact legible_record blank title (by rwa [List.map_map]) (by rwa [List.map_map]) known

end Records

end KMeansSeeding.Json
