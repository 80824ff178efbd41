import KMeansSeeding.Json.Text
import KMeansSeeding.Proofs.Json.Readers
import Mathlib.Tactic.SplitIfs

/-!
# Quoted strings read back

A string is written with some of its characters escaped, by a letter or by a number. Either way the
reader takes one escape per character and finds the character again, so every string reads back
(`takes_string`), and not only the names of the documents.
-/

namespace KMeansSeeding.Json.Reader

variable {c : Char} {rest : List Char}

/-! ## Escapes -/

/-- A character is written as it is, with a letter, or with the number of its code point. -/
theorem escape_cases (c : Char) :
    (escape c = [c] ∧ c ≠ '"' ∧ c ≠ '\\' ∧ 32 ≤ c.toNat) ∨
      (∃ letter, escape c = ['\\', letter] ∧ letterEscape letter = some c) ∨
      (c.toNat < 32 ∧
        escape c = ['\\', 'u', '0', '0', hexDigit (c.toNat / 16), hexDigit c.toNat]) := by
  unfold escape
  split_ifs with quote backslash line carriage tab back form low
  · exact .inr (.inl ⟨_, rfl, by subst quote; rfl⟩)
  · exact .inr (.inl ⟨_, rfl, by subst backslash; rfl⟩)
  · exact .inr (.inl ⟨_, rfl, by subst line; rfl⟩)
  · exact .inr (.inl ⟨_, rfl, by subst carriage; rfl⟩)
  · exact .inr (.inl ⟨_, rfl, by subst tab; rfl⟩)
  · exact .inr (.inl ⟨_, rfl, by subst back; rfl⟩)
  · exact .inr (.inl ⟨_, rfl, by subst form; rfl⟩)
  · exact .inr (.inr ⟨low, rfl⟩)
  · exact .inl ⟨rfl, quote, backslash, Nat.not_lt.mp low⟩

theorem takes_codeUnit {digits : List Char} {value : Nat} (four : digits.length = 4)
    (reads : hexQuad digits = some value) : codeUnit.Takes digits rest value := by
  intro position
  have digits_eq : (digits ++ rest).take 4 = digits := by
    rw [← four, List.take_left]
  simp only [codeUnit, digits_eq, reads]
  rw [← four, Cursor.drop_append]

/-- A control character is found again from the two digits of its number. -/
theorem hexQuad_control {code : Nat} (control : code < 32) :
    hexQuad ['0', '0', hexDigit (code / 16), hexDigit code] = some code := by
  decide +revert

theorem takes_escaped_letter {letter : Char} (h : letterEscape letter = some c) :
    escaped.Takes [letter] rest c := by
  refine Takes.bind_ahead (takes_peek _) ?_
  dsimp only [List.cons_append, List.head?_cons]
  rw [h]
  exact (takes_skip letter rest).bind_last (takes_pure c rest)

theorem takes_numberedEscape {digits : List Char} (four : digits.length = 4)
    (reads : hexQuad digits = some c.toNat) (control : c.toNat < 32) :
    numberedEscape.Takes digits rest c := by
  refine (takes_codeUnit four reads).bind_last ?_
  -- no control character is a surrogate
  rw [if_neg (by simp; omega), if_neg (by simp; omega), Char.ofNat_toNat]
  exact takes_pure c rest

theorem takes_escaped_number {digits : List Char} (four : digits.length = 4)
    (reads : hexQuad digits = some c.toNat) (control : c.toNat < 32) :
    escaped.Takes ('u' :: digits) rest c := by
  refine Takes.bind_ahead (takes_peek _) ?_
  exact (takes_skip 'u' (digits ++ rest)).bind (takes_numberedEscape four reads control)

/-! ## Strings -/

theorem takes_stringLoop_cons {steps : Nat} {written text : List Char} (c : Char)
    (h : (stringLoop steps).Takes written rest text) :
    (stringLoop (steps + 1)).Takes (escape c ++ written) rest (c :: text) := by
  have goesOn := h.bind_pure (c :: ·)
  rcases escape_cases c with ⟨plain, notQuote, notEscape, printable⟩ | ⟨letter, short, meant⟩ |
    ⟨control, long⟩
  · rw [plain]
    refine Takes.bind_ahead (takes_peek _) ?_
    dsimp only [List.cons_append, List.head?_cons]
    rw [if_neg notQuote, if_neg notEscape, if_neg (Nat.not_lt.mpr printable)]
    exact (takes_skip c (written ++ rest)).bind goesOn
  · rw [short]
    refine Takes.bind_ahead (takes_peek _) ?_
    refine (takes_skip '\\' (letter :: written ++ rest)).bind ?_
    exact (takes_escaped_letter meant).bind goesOn
  · rw [long]
    refine Takes.bind_ahead (takes_peek _) ?_
    refine (takes_skip '\\' ('u' :: '0' :: '0' :: _ :: _ :: written ++ rest)).bind ?_
    exact (takes_escaped_number rfl (hexQuad_control control) control).bind goesOn

theorem takes_stringLoop (text : List Char) (rest : List Char) {steps : Nat}
    (enough : text.length < steps) :
    (stringLoop steps).Takes (text.flatMap escape ++ ['"']) rest text := by
  obtain ⟨fewer, rfl⟩ : ∃ fewer, steps = fewer + 1 := ⟨steps - 1, by omega⟩
  induction text generalizing fewer with
  | nil =>
    refine Takes.bind_ahead (takes_peek _) ?_
    exact (takes_skip '"' rest).bind_last (takes_pure [] rest)
  | cons c text ih =>
    rw [List.flatMap_cons, List.append_assoc]
    rw [List.length_cons] at enough
    obtain ⟨fewest, rfl⟩ : ∃ fewest, fewer = fewest + 1 := ⟨fewer - 1, by omega⟩
    exact takes_stringLoop_cons c (ih fewest (by omega))

theorem length_le_flatMap_escape (text : List Char) : text.length ≤ (text.flatMap escape).length := by
  induction text with
  | nil => exact Nat.le_refl 0
  | cons c text ih =>
    have one : 1 ≤ (escape c).length := by
      rcases escape_cases c with ⟨h, -⟩ | ⟨letter, h, -⟩ | ⟨-, h⟩ <;> simp [h]
    rw [List.flatMap_cons, List.length_append, List.length_cons]
    omega

/-- A string whose opening quote was taken reads back up to the closing one. -/
theorem takes_string (text : String) (rest : List Char) :
    string.Takes (text.toList.flatMap escape ++ ['"']) rest text := by
  refine Takes.bind_ahead (takes_steps _) ?_
  have enough := length_le_flatMap_escape text.toList
  have loop := @takes_stringLoop text.toList rest
    ((text.toList.flatMap escape ++ ['"'] ++ rest).length + 1)
    (by simp only [List.length_append]; omega)
  have whole := loop.bind_pure String.ofList
  rwa [Option.map_some, String.ofList_toList] at whole

end KMeansSeeding.Json.Reader
