import KMeansSeeding.Proofs.Documents.Rereading
import KMeansSeeding.Proofs.Promises

/-!
# Configurations read from some of their fields

A text may give any of the six fields of a configuration, in any order; the usual configuration fills
in the others. Then the sizes are checked. `ofText_written` says what such a text reads as, and
`Fits.ofText_eq` what the text of a whole configuration does.
-/

namespace KMeansSeeding

open Json (Legible Shape Spacing)

namespace Configuration

/-! ## Some of the fields -/

/-- Values for some of the fields. A text holds numbers of up to 64 bits. -/
structure Given where
  folds : Option UInt64
  dimension : Option UInt64
  bits : Option UInt64
  samples : Option UInt64
  seed : Option UInt64
  parallel : Option Bool
  deriving DecidableEq, Repr

namespace Given

/-- A number as it is written. -/
def number (value : UInt64) : Json :=
  .natural value.toNat

/-- The value of the field of a name, if there is such a field and it was given. -/
def value (given : Given) (name : String) : Option Json :=
  if name = "num_folds" then given.folds.map number
  else if name = "dimension" then given.dimension.map number
  else if name = "projection_bits" then given.bits.map number
  else if name = "projection_samples" then given.samples.map number
  else if name = "seed" then given.seed.map number
  else if name = "parallel" then given.parallel.map .flag
  else none

/-- The names of all fields. -/
def names : List String :=
  ["num_folds", "dimension", "projection_bits", "projection_samples", "seed", "parallel"]

/-- The fields of a configuration, with what stands in for them. -/
def slots : List (String × Shape × Option Json × Option Json) :=
  match Document.configuration.shape with
  | .record _ fields => fields
  | _ => []

/-- The fields that were given, with their names. -/
def fields (given : Given) : List (String × Json) :=
  names.filterMap fun name => (given.value name).map (name, ·)

/-- The configuration with the usual values for the fields that were not given. -/
def filled (given : Given) : Configuration :=
  { folds := given.folds.elim usual.folds UInt64.toNat
    dimension := given.dimension.elim usual.dimension UInt64.toNat
    bits := given.bits.elim usual.bits UInt64.toNat
    samples := given.samples.elim usual.samples UInt64.toNat
    seed := given.seed.getD usual.seed
    parallel := given.parallel.getD usual.parallel }

variable {given : Given}

theorem mem_fields_iff {name : String} {value : Json} :
    (name, value) ∈ given.fields ↔ name ∈ names ∧ given.value name = some value := by
  rw [fields, List.mem_filterMap]
  constructor
  · rintro ⟨other, member, found⟩
    obtain ⟨_, present, pair⟩ := Option.map_eq_some_iff.mp found
    obtain ⟨rfl, rfl⟩ := Prod.mk.inj pair
    exact ⟨member, present⟩
  · rintro ⟨member, present⟩
    exact ⟨name, member, by rw [present, Option.map_some]⟩

/-- No field is given twice. -/
theorem nodup_fields (given : Given) : (given.fields.map Prod.fst).Nodup := by
  have part : (given.fields.map Prod.fst).Sublist names := by
    have kept (names : List String) :
        ((names.filterMap fun name => (given.value name).map (name, ·)).map Prod.fst).Sublist
          names := by
      induction names with
      | nil => exact List.Sublist.slnil
      | cons name names ih =>
        cases present : given.value name with
        | none => simpa [List.filterMap_cons, present] using ih.cons name
        | some value => simpa [List.filterMap_cons, present] using ih.cons_cons name
    exact kept names
  exact part.nodup (by decide)

/-- Every field of a configuration has a name of its own and a value that stands in for it. -/
theorem slots_spec {field : String × Shape × Option Json × Option Json} (member : field ∈ slots) :
    field.1 ∈ names ∧ ∃ default, field.2.2.1 = some default := by
  have all : ∀ field ∈ slots, field.1 ∈ names ∧ (field.2.2.1).isSome = true := by decide
  obtain ⟨known, stands⟩ := all field member
  exact ⟨known, Option.isSome_iff_exists.mp stands⟩

theorem number_or (field : Option UInt64) (default : ℕ) :
    (field.map number).getD (.natural default) = .natural (field.elim default UInt64.toNat) := by
  cases field <;> rfl

/-- The fields that were given and the usual values make up the configuration. -/
theorem entries_filled (given : Given) :
    Json.record (slots.map fun field =>
        (field.1, (given.value field.1).getD (field.2.2.1.getD .null)))
      = Document.configuration.encode given.filled := by
  have seed : (given.seed.map number).getD (.natural usual.seed.toNat)
      = .natural (given.seed.getD usual.seed).toNat := by
    cases given.seed <;> rfl
  have parallel : (given.parallel.map Json.flag).getD (.flag usual.parallel)
      = .flag (given.parallel.getD usual.parallel) := by
    cases given.parallel <;> rfl
  show Json.record [
      ("num_folds", (given.value "num_folds").getD (.natural usual.folds)),
      ("dimension", (given.value "dimension").getD (.natural usual.dimension)),
      ("projection_bits", (given.value "projection_bits").getD (.natural usual.bits)),
      ("projection_samples", (given.value "projection_samples").getD (.natural usual.samples)),
      ("seed", (given.value "seed").getD (.natural usual.seed.toNat)),
      ("parallel", (given.value "parallel").getD (.flag usual.parallel))] = _
  simp [value, number_or, seed, parallel, Document.configuration, filled]

section Written

variable {written : List (String × Json)} (same : written.Perm given.fields)

include same

/-- In whatever order the fields are written, they are known by their names. -/
theorem mem_names_iff {name : String} (known : name ∈ names) :
    name ∈ written.map Prod.fst ↔ (given.value name).isSome = true := by
  rw [(same.map Prod.fst).mem_iff, Option.isSome_iff_exists]
  constructor
  · intro member
    obtain ⟨⟨_, value⟩, entry, rfl⟩ := List.mem_map.mp member
    exact ⟨value, (mem_fields_iff.mp entry).2⟩
  · rintro ⟨value, present⟩
    exact List.mem_map.mpr ⟨(name, value), mem_fields_iff.mpr ⟨known, present⟩, rfl⟩

/-- A field that was not written takes the value that stands in for it. -/
theorem written_or {name : String} (known : name ∈ names) (default : Json) :
    (if name ∈ written.map Prod.fst then given.value name else some default)
      = some ((given.value name).getD default) := by
  by_cases present : (given.value name).isSome = true
  · obtain ⟨value, found⟩ := Option.isSome_iff_exists.mp present
    rw [if_pos ((mem_names_iff same known).mpr present), found, Option.getD_some]
  · rw [if_neg (mt (mem_names_iff same known).mp present),
      Option.not_isSome_iff_eq_none.mp present, Option.getD_none]

omit same in
/-- A value that was given can be read in the shape of its field. -/
theorem exists_legible {spacing : Spacing} {name : String} {value : Json} (known : name ∈ names)
    (present : given.value name = some value) :
    ∃ shape ifUnnamed ifUnlisted, (name, shape, ifUnnamed, ifUnlisted) ∈ slots ∧
      Legible spacing shape value (some value) := by
  have number (field : Option UInt64) (expected : String) (found : field.map number = some value) :
      Legible spacing (.natural expected) value (some value) := by
    obtain ⟨word, -, rfl⟩ := Option.map_eq_some_iff.mp found
    exact Json.legible_natural expected word.toNat_lt
  simp only [names, List.mem_cons, List.not_mem_nil, or_false] at known
  rcases known with rfl | rfl | rfl | rfl | rfl | rfl
  · exact ⟨_, _, _, List.mem_cons_self, number given.folds _ (by simpa [Given.value] using present)⟩
  · exact ⟨_, _, _, List.mem_of_getElem? (i := 1) rfl,
      number given.dimension _ (by simpa [Given.value] using present)⟩
  · exact ⟨_, _, _, List.mem_of_getElem? (i := 2) rfl,
      number given.bits _ (by simpa [Given.value] using present)⟩
  · exact ⟨_, _, _, List.mem_of_getElem? (i := 3) rfl,
      number given.samples _ (by simpa [Given.value] using present)⟩
  · exact ⟨_, _, _, List.mem_of_getElem? (i := 4) rfl,
      number given.seed _ (by simpa [Given.value] using present)⟩
  · refine ⟨_, _, _, List.mem_of_getElem? (i := 5) rfl, ?_⟩
    have found : given.parallel.map Json.flag = some value := by simpa [Given.value] using present
    obtain ⟨flag, -, rfl⟩ := Option.map_eq_some_iff.mp found
    exact Json.legible_flag flag

/-- A text of some fields in any order reads as the text of the whole configuration would. -/
theorem legible_written {spacing : Spacing} (blank : spacing.Blank) :
    Legible spacing Document.configuration.shape (.record written)
      (some (Document.configuration.encode given.filled)) := by
  have distinct : (written.map Prod.fst).Nodup :=
    (same.map Prod.fst).nodup_iff.mpr given.nodup_fields
  have legible := @Json.legible_record spacing slots blank "SketchIndexConfig" (by decide)
    written distinct given.value (by
      rintro ⟨name, value⟩ member
      obtain ⟨known, present⟩ := mem_fields_iff.mp (same.mem_iff.mp member)
      obtain ⟨shape, ifUnnamed, ifUnlisted, slot, legible⟩ :=
        @exists_legible given spacing name value known present
      exact ⟨_, slot, rfl, present ▸ legible⟩)
  have values : slots.mapM (fun field =>
      (if field.1 ∈ written.map Prod.fst then given.value field.1 else field.2.2.1).map (field.1, ·))
      = some (slots.map fun field =>
          (field.1, (given.value field.1).getD (field.2.2.1.getD .null))) := by
    refine mapM_eq_some_map fun field member => ?_
    obtain ⟨known, default, stands⟩ := slots_spec member
    rw [stands, written_or same known default]
    rfl
  rw [values, Option.map_some, entries_filled] at legible
  exact legible

end Written

end Given

/-- All fields of a configuration are given. -/
def Given.ofConfiguration (configuration : Configuration) : Given :=
  { folds := some (.ofNat configuration.folds)
    dimension := some (.ofNat configuration.dimension)
    bits := some (.ofNat configuration.bits)
    samples := some (.ofNat configuration.samples)
    seed := some configuration.seed
    parallel := some configuration.parallel }

theorem decode_encode (configuration : Configuration) :
    Document.configuration.decode (Document.configuration.encode configuration)
      = some configuration := by
  simp [Document.configuration]

/-! ## Checking the sizes -/

/-- The sizes of a configuration in the order in which they are checked, with the fault of a zero. -/
def sizes (configuration : Configuration) : List (ℕ × Misfit) :=
  [(configuration.folds, .noFolds), (configuration.dimension, .noDimension),
    (configuration.bits, .noBits), (configuration.samples, .noSamples)]

/-- The check fails with the fault of the first zero. -/
theorem check_eq_find (configuration : Configuration) :
    configuration.check = match configuration.sizes.find? (·.1 == 0) with
      | none => .ok ()
      | some (_, misfit) => .error (.misfit misfit) := by
  unfold check sizes
  split_ifs with folds dimension bits samples
  · simp [folds]
  · simp [folds, dimension]
  · simp [folds, dimension, bits]
  · simp [folds, dimension, bits, samples]
  · simp [folds, dimension, bits, samples]

/-- A text whose value is known reads as its configuration as far as the check accepts that. -/
theorem ofText_eq {text : String} {configuration : Configuration}
    (read : (Document.configuration.read text).toOption = some configuration) :
    ofText text = configuration.check.map fun () => configuration := by
  rw [ofText, toOption_eq_some_iff.mp read]
  show (configuration.check >>= fun _ => .ok configuration) = _
  cases configuration.check <;> rfl

/-- The sizes of a configuration fit into 64 bits, like every number that a text can give. -/
structure Fits (configuration : Configuration) : Prop where
  folds : configuration.folds < 2 ^ 64
  dimension : configuration.dimension < 2 ^ 64
  bits : configuration.bits < 2 ^ 64
  samples : configuration.samples < 2 ^ 64

section Fits

variable {configuration : Configuration} (fits : configuration.Fits)

include fits

theorem Fits.filled_eq : (Given.ofConfiguration configuration).filled = configuration := by
  simp only [Given.filled, Given.ofConfiguration, Option.elim_some, Option.getD_some,
    UInt64.toNat_ofNat_of_lt' fits.folds, UInt64.toNat_ofNat_of_lt' fits.dimension,
    UInt64.toNat_ofNat_of_lt' fits.bits, UInt64.toNat_ofNat_of_lt' fits.samples]

theorem Fits.fields_eq :
    Json.record (Given.ofConfiguration configuration).fields
      = Document.configuration.encode configuration := by
  have given : (Given.ofConfiguration configuration).fields
      = [("num_folds", Given.number (.ofNat configuration.folds)),
        ("dimension", Given.number (.ofNat configuration.dimension)),
        ("projection_bits", Given.number (.ofNat configuration.bits)),
        ("projection_samples", Given.number (.ofNat configuration.samples)),
        ("seed", Given.number configuration.seed),
        ("parallel", .flag configuration.parallel)] := rfl
  rw [given]
  simp only [Given.number, Document.configuration,
    UInt64.toNat_ofNat_of_lt' fits.folds, UInt64.toNat_ofNat_of_lt' fits.dimension,
    UInt64.toNat_ofNat_of_lt' fits.bits, UInt64.toNat_ofNat_of_lt' fits.samples]

end Fits

/-- A text of some fields reads as the configuration they are filled up to, if the check accepts it. -/
theorem ofText_written {given : Given} {spacing : Spacing} {written : List (String × Json)}
    {trailing : List Char} (blank : spacing.Blank) (same : written.Perm given.fields)
    (blank_end : Json.Reader.Blanks trailing) :
    ofText (String.ofList ((Json.record written).render spacing 0 ++ trailing))
      = given.filled.check.map fun () => given.filled := by
  refine ofText_eq ?_
  rw [Document.toOption_read (Given.legible_written same blank) blank_end, Option.bind_some,
    decode_encode]

theorem Fits.ofText_eq {configuration : Configuration} (fits : configuration.Fits)
    {spacing : Spacing} (blank : spacing.Blank) :
    ofText (String.ofList ((Document.configuration.encode configuration).render spacing 0))
      = configuration.check.map fun () => configuration := by
  have read := ofText_written blank (List.Perm.refl (Given.ofConfiguration configuration).fields)
    Json.Reader.blanks_nil
  rwa [List.append_nil, fits.fields_eq, fits.filled_eq] at read

/-- A text of some of the fields in any order uses the usual values for the others. It reads as that
configuration exactly if all four sizes are positive; otherwise the first size that is zero is the
fault. The text of a whole configuration reads as it exactly if the check accepts it; otherwise it
fails as the check does. -/
theorem ofText_of_given :
    (∀ (given : Given) (spacing : Spacing) (written : List (String × Json)) (trailing : List Char),
      spacing.Blank → written.Perm given.fields → Json.Reader.Blanks trailing →
      let text := String.ofList ((Json.record written).render spacing 0 ++ trailing)
      (ofText text = .ok given.filled ↔
        given.filled.folds ≠ 0 ∧ given.filled.dimension ≠ 0 ∧ given.filled.bits ≠ 0 ∧
          given.filled.samples ≠ 0) ∧
      ofText text = match given.filled.sizes.find? (·.1 == 0) with
        | none => .ok given.filled
        | some (_, misfit) => .error (.misfit misfit)) ∧
    ∀ configuration : Configuration, configuration.Fits →
      ofText (Document.configuration.compact configuration)
          = configuration.check.map (fun () => configuration) ∧
        ofText (Document.configuration.indented configuration)
          = configuration.check.map (fun () => configuration) := by
  refine ⟨fun given spacing written trailing blank same blank_end => ?_, fun configuration fits =>
    ⟨fits.ofText_eq Json.blank_compact, fits.ofText_eq Json.blank_indented⟩⟩
  dsimp only
  rw [ofText_written blank same blank_end]
  constructor
  · rw [map_eq_ok_iff]
    have sound : given.filled.check = .ok () ↔ given.filled.Sound := check_eq_ok_iff
    simp only [and_true, exists_const, sound, Sound, Nat.pos_iff_ne_zero]
  · rw [check_eq_find]
    cases given.filled.sizes.find? (·.1 == 0) <;> rfl

/-- Three fields in reverse order, one of them zero and one the largest number there is. -/
theorem ofText_of_given_reversed :
    let given : Given := ⟨none, some 8, none, some 0, some 18446744073709551615, none⟩
    Spacing.compact.Blank ∧ given.fields.reverse.Perm given.fields ∧
      Json.Reader.Blanks ['\n'] ∧
      ofText "\x7b\"seed\":18446744073709551615,\"projection_samples\":0,\"dimension\":8\x7d\n"
        = .error (.misfit .noSamples) ∧
      usual.Fits ∧ ofText (Document.configuration.compact usual) = .ok usual := by
  intro given
  have reversed : given.fields.reverse.Perm given.fields := given.fields.reverse_perm
  have fits : usual.Fits := ⟨by decide, by decide, by decide, by decide⟩
  obtain ⟨read, whole⟩ := ofText_of_given
  have text : String.ofList ((Json.record given.fields.reverse).render .compact 0 ++ ['\n'])
      = "\x7b\"seed\":18446744073709551615,\"projection_samples\":0,\"dimension\":8\x7d\n" := by
    decide +kernel
  have refused := (read given .compact _ _ Json.blank_compact reversed Json.Reader.blanks_line).2
  rw [text] at refused
  exact ⟨Json.blank_compact, reversed, Json.Reader.blanks_line, refused, fits, (whole usual fits).1⟩

end Configuration

end KMeansSeeding
