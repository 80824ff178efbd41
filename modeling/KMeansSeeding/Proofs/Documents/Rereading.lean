import KMeansSeeding.CommandLine.Execute
import KMeansSeeding.Proofs.Json.Shapes

/-!
# What a document is worth after it was written

`document.Rereads spacing value result` says that the text of a value is read as `result`, or refused
if there is none, wherever the text stands. A list is reread item by item (`Rereads.list`), a record
field by field (`Rereads.record`). The texts that the commands write (`IsText`), in one line, over
several lines, and with a line break at the end, are whole texts of this kind.
-/

namespace KMeansSeeding

open Json (Legible Shape Spacing)

namespace Document

variable {α : Type}

/-- The text of a value is read as `result`, or refused if there is none. -/
def Rereads (spacing : Spacing) (document : Document α) (value : α) (result : Option α) : Prop :=
  ∃ answer, Legible spacing document.shape (document.encode value) answer ∧
    answer.bind document.decode = result

section Texts

variable {spacing : Spacing} {document : Document α} {value : α} {result : Option α}
  {trailing : List Char}

/-- Reading a whole text, which may have blanks at its end. -/
theorem toOption_read {written : Json} {answer : Option Json}
    (legible : Legible spacing document.shape written answer)
    (blank : Json.Reader.Blanks trailing) :
    (document.read (String.ofList (written.render spacing 0 ++ trailing))).toOption
      = answer.bind document.decode := by
  rw [← legible.toOption_parse blank, read]
  cases document.shape.parse _ with
  | error failure => rfl
  | ok value =>
    dsimp only
    show _ = document.decode value
    cases document.decode value <;> rfl

theorem Rereads.toOption_read (h : document.Rereads spacing value result)
    (blank : Json.Reader.Blanks trailing) :
    (document.read
      (String.ofList ((document.encode value).render spacing 0 ++ trailing))).toOption = result := by
  obtain ⟨answer, legible, decoded⟩ := h
  rw [← decoded]
  exact Document.toOption_read legible blank

theorem toOption_read_compact (h : document.Rereads .compact value result) :
    (document.read (document.compact value)).toOption = result := by
  have read := h.toOption_read Json.Reader.blanks_nil
  rwa [List.append_nil] at read

theorem toOption_read_indented (h : document.Rereads .indented value result) :
    (document.read (document.indented value)).toOption = result := by
  have read := h.toOption_read Json.Reader.blanks_nil
  rwa [List.append_nil] at read

/-- The texts in which a report is written: in one line, over several lines, and as a command shows it
in the format of documents, with a line break at the end. -/
inductive IsText (document : Document α) (lines : α → List String) (value : α) : String → Prop
  | compact : IsText document lines value (document.compact value)
  | indented : IsText document lines value (document.indented value)
  | shown (headline : String) {invocation : Invocation} (format : invocation.format = .json) :
    IsText document lines value (CommandLine.present document lines headline invocation value)

/-- What is known of the value that a text is read as, however that is spaced, is known of each of the
texts of a report. -/
theorem IsText.toOption_read {lines : α → List String} {text : String} {P : Option α → Prop}
    (written : document.IsText lines value text)
    (known : ∀ spacing : Spacing, spacing.Blank →
      ∃ result, document.Rereads spacing value result ∧ P result) :
    P (document.read text).toOption := by
  obtain ⟨one, rereads_one, holds_one⟩ := known .compact Json.blank_compact
  obtain ⟨several, rereads_several, holds_several⟩ := known .indented Json.blank_indented
  cases written with
  | compact => rwa [toOption_read_compact rereads_one]
  | indented => rwa [toOption_read_indented rereads_several]
  | @shown headline invocation format =>
    -- the line break behind the text is blank
    have shown : CommandLine.present document lines headline invocation value
        = (if invocation.pretty then document.indented value else document.compact value)
          ++ "\n" := by
      simp [CommandLine.present, format, String.join]
    rw [shown]
    split_ifs
    · have read := rereads_several.toOption_read Json.Reader.blanks_line
      rw [String.ofList_append] at read
      exact read ▸ holds_several
    · have read := rereads_one.toOption_read Json.Reader.blanks_line
      rw [String.ofList_append] at read
      exact read ▸ holds_one

end Texts

/-! ## Lists -/

section Lists

variable {spacing : Spacing} {document : Document α}

/-- A list is reread item by item; one item that is refused is enough to refuse the list. -/
theorem Rereads.list (blank : spacing.Blank) {values : List α} {result : α → Option α}
    (items : ∀ value ∈ values, document.Rereads spacing value (result value)) :
    (listOf document).Rereads spacing values (values.mapM result) := by
  choose! answer legible decoded using items
  refine ⟨_, Json.legible_list blank legible, ?_⟩
  rw [← bind_mapM decoded, Option.bind_map]
  rfl

end Lists

/-! ## Records -/

/-- A record is reread from what its fields read as. -/
theorem Rereads.record {spacing : Spacing} {document : Document α} {value : α} {result : Option α}
    (blank : spacing.Blank) {title : String} (entries : List Json.Entry)
    (shape_eq : document.shape = .record title (entries.map Json.Entry.field))
    (encode_eq : document.encode value
      = .record (entries.map fun entry => (entry.field.1, entry.written)))
    (nodup : (entries.map fun entry => entry.field.1).Nodup)
    (reads : ∀ entry ∈ entries, Legible spacing entry.field.2.1 entry.written entry.answer)
    (decoded : ((entries.mapM fun entry : Json.Entry => entry.answer.map (entry.field.1, ·)).bind
      fun fields => document.decode (.record fields)) = result) :
    document.Rereads spacing value result := by
  have legible := Json.legible_record_of_entries blank title nodup reads
  rw [← shape_eq, ← encode_eq] at legible
  refine ⟨_, legible, ?_⟩
  rw [← decoded, Option.bind_map]
  rfl

end Document

end KMeansSeeding
