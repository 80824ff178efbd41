import KMeansSeeding.Json.Cursor

/-!
# What a reader does with a text

`Answers reader text rest answer` says that `reader` takes exactly `text` and answers with the value
of `answer`, provided that `rest` follows; if there is no value, it fails. A reader may look at `rest`
without taking it. So one statement about a list of parts covers the texts that are read to their end
and those that are not. `Takes` and `Refuses` are the two cases. All of them compose along the steps
of a reader.
-/

namespace KMeansSeeding.Json

/-- The position behind a text. -/
def Position.behind (position : Position) (text : List Char) : Position :=
  text.foldl Position.after position

theorem Position.behind_append (position : Position) (text more : List Char) :
    position.behind (text ++ more) = (position.behind text).behind more :=
  List.foldl_append

theorem Cursor.drop_append (text rest : List Char) (position : Position) :
    Cursor.drop text.length ⟨text ++ rest, position⟩ = ⟨rest, position.behind text⟩ := by
  induction text generalizing position with
  | nil => rfl
  | cons c text ih => exact ih _

namespace Reader

variable {α β : Type}

/-- `reader` fails on `text`. -/
def Refuses (reader : Reader α) (text : List Char) : Prop :=
  ∀ position, ∃ failure stop, reader ⟨text, position⟩ = .error failure stop

/-- If `rest` follows, `reader` takes `text` and answers with the value of `answer`; it fails if there
is none. -/
def Answers (reader : Reader α) (text rest : List Char) : Option α → Prop
  | some value =>
    ∀ position, reader ⟨text ++ rest, position⟩ = .ok value ⟨rest, position.behind text⟩
  | none => reader.Refuses (text ++ rest)

/-- If `rest` follows, `reader` takes `text` and answers with `value`. -/
abbrev Takes (reader : Reader α) (text rest : List Char) (value : α) : Prop :=
  reader.Answers text rest (some value)

/-! ## Steps in a row -/

theorem takes_pure (value : α) (rest : List Char) : (pure value : Reader α).Takes [] rest value :=
  fun _ => rfl

section Steps

variable {first : Reader α} {next : α → Reader β} {text more rest : List Char} {value : α}
  {result : Option β}

theorem Takes.bind (step : first.Takes text (more ++ rest) value)
    (goesOn : (next value).Answers more rest result) :
    (first >>= next).Answers (text ++ more) rest result := by
  have taken (position : Position) : (first >>= next) ⟨text ++ more ++ rest, position⟩
      = next value ⟨more ++ rest, position.behind text⟩ := by
    rw [List.append_assoc]
    show EStateM.bind first next _ = _
    rw [EStateM.bind, step position]
  cases result with
  | some result =>
    intro position
    rw [taken, Position.behind_append]
    exact goesOn _
  | none =>
    intro position
    rw [taken]
    exact goesOn _

theorem Refuses.bind (refused : first.Refuses text) : (first >>= next).Refuses text := by
  intro position
  obtain ⟨failure, stop, failed⟩ := refused position
  refine ⟨failure, stop, ?_⟩
  show EStateM.bind first next _ = _
  rw [EStateM.bind, failed]

/-- The answer of two steps in a row. -/
theorem Answers.bind {answer : Option α} {result : α → Option β}
    (step : first.Answers text (more ++ rest) answer)
    (goesOn : ∀ value, answer = some value → (next value).Answers more rest (result value)) :
    (first >>= next).Answers (text ++ more) rest (answer.bind result) := by
  cases answer with
  | some value => exact Takes.bind step (goesOn value rfl)
  | none =>
    show (first >>= next).Refuses _
    rw [List.append_assoc]
    exact Refuses.bind step

/-- A step that only looks at the text. -/
theorem Takes.bind_ahead (step : first.Takes [] (text ++ rest) value)
    (goesOn : (next value).Answers text rest result) : (first >>= next).Answers text rest result :=
  @Takes.bind _ _ first next [] text rest value result step goesOn

/-- A step after which nothing is taken. -/
theorem Takes.bind_last (step : first.Takes text rest value)
    (goesOn : (next value).Answers [] rest result) : (first >>= next).Answers text rest result := by
  have both := @Takes.bind _ _ first next text [] rest value result step goesOn
  rwa [List.append_nil] at both

theorem Answers.bind_last {answer : Option α} {result : α → Option β}
    (step : first.Answers text rest answer)
    (goesOn : ∀ value, answer = some value → (next value).Answers [] rest (result value)) :
    (first >>= next).Answers text rest (answer.bind result) := by
  cases answer with
  | some value => exact Takes.bind_last step (goesOn value rfl)
  | none => exact Refuses.bind step

/-- A step after which the answer is only changed. -/
theorem Answers.bind_pure {answer : Option α} (change : α → β)
    (step : first.Answers text rest answer) :
    (first >>= fun value => pure (change value)).Answers text rest (answer.map change) := by
  cases answer with
  | some value => exact Takes.bind_last step (takes_pure _ rest)
  | none => exact Refuses.bind step

end Steps

/-! ## Single steps -/

section Single

variable {c : Char} {text rest : List Char}

theorem takes_peek (rest : List Char) : peek.Takes [] rest rest.head? :=
  fun _ => rfl

theorem takes_steps (rest : List Char) : steps.Takes [] rest (rest.length + 1) :=
  fun _ => rfl

theorem takes_skip (c : Char) (rest : List Char) : (skip 1).Takes [c] rest () :=
  fun _ => rfl

theorem takes_skip_length (text rest : List Char) : (skip text.length).Takes text rest () :=
  fun position => congrArg (EStateM.Result.ok ()) (Cursor.drop_append text rest position)

theorem refuses_failHere (cause : Cause) (text : List Char) :
    (failHere cause : Reader α).Refuses text :=
  fun _ => ⟨_, _, rfl⟩

theorem refuses_failWhole (cause : Cause) (text : List Char) :
    (failWhole cause : Reader α).Refuses text :=
  fun _ => ⟨_, _, rfl⟩

/-- A step that depends on the rest of the text. -/
theorem answers_get {next : Cursor → Reader β} {result : Option β}
    (goesOn : ∀ position, (next ⟨text ++ rest, position⟩).Answers text rest result) :
    (get >>= next : Reader β).Answers text rest result := by
  cases result with
  | some _ => exact fun position => goesOn position position
  | none => exact fun position => goesOn position position

section Class

variable {member : Char → Bool} (inside : ∀ c ∈ text, member c = true)
  (outside : ∀ c ∈ rest.head?, member c = false)

include inside outside

/-- A run of characters of a class ends where another character follows. -/
theorem takeWhile_append : (text ++ rest).takeWhile member = text := by
  rw [List.takeWhile_append_of_pos inside]
  cases rest with
  | nil => rw [List.takeWhile_nil, List.append_nil]
  | cons c rest => rw [List.takeWhile_cons_of_neg (by simp [outside c rfl]), List.append_nil]

theorem takes_takeWhile : (takeWhile member).Takes text rest text := by
  intro position
  show EStateM.Result.ok _ _ = _
  rw [takeWhile_append inside outside]
  exact congrArg (EStateM.Result.ok text) (Cursor.drop_append text rest position)

end Class

/-- Nothing but blanks. -/
def Blanks (text : List Char) : Prop :=
  ∀ c ∈ text, Cursor.isBlank c = true

theorem blanks_nil : Blanks [] :=
  nofun

theorem blanks_line : Blanks ['\n'] := by
  intro c member
  rw [List.mem_singleton.mp member]
  rfl

/-- Blanks are taken up to the next other character. -/
theorem takes_peekSolid {blanks : List Char} (blank : Blanks blanks)
    (solid : ∀ c ∈ rest.head?, Cursor.isBlank c = false) :
    peekSolid.Takes blanks rest rest.head? :=
  (takes_takeWhile blank solid).bind_last (takes_peek rest)

theorem takes_peekSolid_cons {blanks : List Char} (blank : Blanks blanks)
    (solid : Cursor.isBlank c = false) : peekSolid.Takes blanks (c :: rest) (some c) :=
  takes_peekSolid blank fun _ same => Option.some.inj same ▸ solid

/-- The characters of a word are taken one by one. -/
theorem takes_word (text rest : List Char) : (word text).Takes text rest () := by
  induction text with
  | nil => exact takes_pure () rest
  | cons c text ih =>
    refine Takes.bind_ahead (takes_peek _) ?_
    show Takes (if c = c then _ else _) _ _ _
    rw [if_pos rfl]
    exact Takes.bind (takes_skip c (text ++ rest)) ih

end Single

/-! ## Wrapped readers -/

section Wrapped

variable {reader : Reader α} {text more rest : List Char} {answer : Option α}

theorem Answers.placed (h : reader.Answers text rest answer) :
    reader.placed.Answers text rest answer := by
  cases answer with
  | some value =>
    intro position
    rw [Reader.placed, h position]
  | none =>
    intro position
    obtain ⟨failure, stop, failed⟩ := h position
    refine ⟨failure.placedAt stop.position, stop, ?_⟩
    rw [Reader.placed, failed]

/-- A closing step does not change the answer. -/
theorem Answers.thenClose {close : Reader Unit} (h : reader.Answers text (more ++ rest) answer)
    (closes : close.Takes more rest ()) :
    (reader.thenClose close).Answers (text ++ more) rest answer := by
  cases answer with
  | some value =>
    intro position
    have taken := h position
    rw [← List.append_assoc] at taken
    rw [Reader.thenClose, taken]
    simp only [closes (position.behind text), Position.behind_append]
  | none =>
    intro position
    obtain ⟨failure, stop, failed⟩ := h position
    rw [← List.append_assoc] at failed
    rw [Reader.thenClose, failed]
    dsimp only
    cases close stop with
    | ok _ closed => exact ⟨_, _, rfl⟩
    | error _ closed => exact ⟨_, _, rfl⟩

end Wrapped

end Reader

end KMeansSeeding.Json
