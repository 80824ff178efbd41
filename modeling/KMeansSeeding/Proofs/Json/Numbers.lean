import KMeansSeeding.Json.Numeral
import KMeansSeeding.Proofs.Json.Readers
import Mathlib.Data.List.Basic

/-!
# Number texts read back

A number text is taken up to the first character that cannot go on with it (`Stops`). Natural numbers
of at most 64 bits read back as themselves (`takes_digitsOf`). Any other number text has a point or an
exponent, and its `Figures` determine what it reads as (`answers_figures`): a float, or nothing if it
passes the largest one.
-/

namespace KMeansSeeding.Json

open Nat (ofDigitChars)

/-! ## Digits -/

/-- Digits, and nothing else. -/
def AllDigits (digits : List Char) : Prop :=
  ∀ c ∈ digits, c.isDigit = true

theorem allDigits_digitsOf (value : Nat) : AllDigits (Decimal.digitsOf value) :=
  fun _ member => Nat.isDigit_of_mem_toDigits (by decide) (by decide) member

/-- A text that starts with a number starts with a digit. -/
theorem exists_head_digitsOf (value : Nat) (rest : List Char) :
    ∃ c, c.isDigit = true ∧ (Decimal.digitsOf value ++ rest).head? = some c := by
  obtain ⟨c, others, digits_eq⟩ :=
    List.exists_cons_of_ne_nil (@Nat.toDigits_ne_nil value 10)
  refine ⟨c, allDigits_digitsOf value c ?_, ?_⟩
  · rw [Decimal.digitsOf, digits_eq]
    exact List.mem_cons_self
  · rw [Decimal.digitsOf, digits_eq, List.cons_append, List.head?_cons]

@[simp] theorem ofDigitChars_digitsOf (value : Nat) :
    ofDigitChars 10 (Decimal.digitsOf value) 0 = value :=
  Nat.ofDigitChars_ten_toDigits

theorem le_ofDigitChars (value : Nat) (digits : List Char) :
    value ≤ ofDigitChars 10 digits value := by
  rw [Nat.ofDigitChars_eq_ofDigitChars_zero]
  exact Nat.le_add_right_of_le (Nat.le_mul_of_pos_left _ (Nat.pow_pos (by decide)))

/-- The leading digit of a number is no zero, unless it is the only one. -/
theorem head_digitsOf (value : Nat) :
    (Decimal.digitsOf value).head? = some '0' → Decimal.digitsOf value = ['0'] := by
  -- all digits but the last one are those of a tenth of the number
  induction value using Nat.strongRecOn with
  | ind value ih =>
    rw [Decimal.digitsOf, Nat.toDigits_eq_if (by decide)]
    split_ifs with single
    · intro zero
      rw [List.head?_cons] at zero
      rw [Option.some.inj zero]
    · intro zero
      have tenth := ih (value / 10) (by omega)
      rw [List.head?_append_of_ne_nil _ Nat.toDigits_ne_nil] at zero
      have none_left : value / 10 = 0 := by
        rw [← ofDigitChars_digitsOf (value / 10), tenth zero]
        rfl
      omega

namespace Numeral

/-- All digits are gathered if the number they make stays within the limit. -/
theorem absorb_eq {limit value : Nat} {digits : List Char}
    (within : ofDigitChars 10 digits value ≤ limit) :
    absorb limit value digits = (ofDigitChars 10 digits value, []) := by
  induction digits generalizing value with
  | nil => rfl
  | cons c digits ih =>
    have next : value * 10 + digitValue c = 10 * value + (c.toNat - '0'.toNat) := by
      rw [Nat.mul_comm]
      rfl
    rw [Nat.ofDigitChars_cons] at within ⊢
    rw [absorb, next, if_pos (Nat.le_trans (le_ofDigitChars _ _) within)]
    exact ih within

/-- What is gathered stays within the limit, and no digit is added to those left. -/
theorem absorb_le {limit value : Nat} (within : value ≤ limit) (digits : List Char) :
    (absorb limit value digits).1 ≤ limit ∧
      (absorb limit value digits).2.length ≤ digits.length := by
  induction digits generalizing value with
  | nil => exact ⟨within, Nat.le_refl 0⟩
  | cons c digits ih =>
    rw [absorb]
    split_ifs with next
    · exact ⟨(ih next).1, Nat.le_succ_of_le (ih next).2⟩
    · exact ⟨within, Nat.le_refl _⟩

end Numeral

/-! ## The figures of a number -/

/-- The digits before and behind the point, and the exponent if there is one. Without digits behind
it there is no point. -/
structure Figures where
  whole : List Char
  fraction : List Char
  exponent : Option Int

namespace Figures

/-- The figures in a style of exponents. -/
def text (style : NumberStyle) (figures : Figures) : List Char :=
  figures.whole ++ ((if figures.fraction.isEmpty then [] else '.' :: figures.fraction) ++
    figures.exponent.elim [] style.exponentPart)

/-- The significand, which holds as many digits as fit, and the digits left. -/
def gathered (figures : Figures) : Nat × List Char :=
  Numeral.absorb Numeral.significandLimit (ofDigitChars 10 figures.whole 0) figures.fraction

/-- The decimal exponent of the significand. -/
def scale (figures : Figures) : Int :=
  figures.exponent.getD 0 - (figures.fraction.length - figures.gathered.2.length : Nat)

/-- The float that the figures stand for, unless it passes the largest one. -/
def value (figures : Figures) (negated : Bool) : Option Float :=
  Numeral.float negated figures.gathered.1 figures.scale

/-- Figures that are read as those of a float. -/
structure Sound (figures : Figures) : Prop where
  whole_digits : AllDigits figures.whole
  whole_ne_nil : figures.whole ≠ []
  /-- No zero stands before other digits. -/
  leading : figures.whole.head? = some '0' → figures.whole = ['0']
  whole_le : ofDigitChars 10 figures.whole 0 ≤ Numeral.significandLimit
  fraction_digits : AllDigits figures.fraction
  exponent_le : ∀ exponent ∈ figures.exponent, exponent.natAbs ≤ Numeral.exponentLimit
  float : figures.fraction ≠ [] ∨ figures.exponent.isSome = true

end Figures

namespace Reader

variable {rest : List Char}

/-- What a number cannot go on with. -/
def Stops (rest : List Char) : Prop :=
  ∀ c ∈ rest.head?, c.isDigit = false ∧ c ≠ '.' ∧ isExponentMark c = false

theorem takes_digits {run : List Char} (digits : AllDigits run)
    (stop : ∀ c ∈ rest.head?, c.isDigit = false) : Reader.digits.Takes run rest run :=
  takes_takeWhile digits stop

/-- A whole number is taken up to the next character that is no digit. -/
theorem takes_wholeDigits {whole : List Char} (digits : AllDigits whole) (nonempty : whole ≠ [])
    (leading : whole.head? = some '0' → whole = ['0'])
    (stop : ∀ c ∈ rest.head?, c.isDigit = false) : wholeDigits.Takes whole rest whole := by
  obtain ⟨c, others, rfl⟩ := List.exists_cons_of_ne_nil nonempty
  refine Takes.bind_ahead (takes_peek _) ?_
  dsimp only [List.cons_append, List.head?_cons]
  split_ifs with zero digit
  · -- a zero stands alone
    subst zero
    obtain rfl : others = [] := by simpa using leading rfl
    refine (takes_skip '0' rest).bind_last ?_
    refine Takes.bind_ahead (takes_peek _) ?_
    cases rest with
    | nil => exact takes_pure ['0'] []
    | cons next rest =>
      dsimp only [List.nil_append, List.head?_cons]
      rw [if_neg (by simp [stop next rfl])]
      exact takes_pure ['0'] (next :: rest)
  · exact takes_digits digits stop
  · exact absurd (digits c List.mem_cons_self) digit

/-! ## Exponents -/

theorem answers_finish (negated : Bool) (significand : Nat) (exponent : Int) (rest : List Char) :
    (finish negated significand exponent).Answers [] rest
      ((Numeral.float negated significand exponent).map .floating) := by
  rw [finish]
  cases Numeral.float negated significand exponent with
  | some value => exact takes_pure _ rest
  | none => exact refuses_failHere _ rest

/-- The sign of an exponent is taken if there is one. -/
theorem takes_exponentSign (style : NumberStyle) (exponent : Int) (rest : List Char) :
    exponentSign.Takes
      (if exponent < 0 then ['-'] else if style.plusSign then ['+'] else [])
      (Decimal.digitsOf exponent.natAbs ++ rest) (decide (exponent < 0)) := by
  split_ifs with negative plus
  · rw [decide_eq_true negative]
    refine Takes.bind_ahead (takes_peek _) ?_
    exact (takes_skip '-' _).bind_last (takes_pure true _)
  · rw [decide_eq_false negative]
    refine Takes.bind_ahead (takes_peek _) ?_
    exact (takes_skip '+' _).bind_last (takes_pure false _)
  · rw [decide_eq_false negative]
    obtain ⟨c, digit, head⟩ := exists_head_digitsOf exponent.natAbs rest
    refine Takes.bind_ahead (takes_peek _) ?_
    rw [List.nil_append, head]
    split
    · rename_i plus
      cases Option.some.inj plus
      exact absurd digit (by decide)
    · rename_i minus
      cases Option.some.inj minus
      exact absurd digit (by decide)
    · exact takes_pure false _

theorem answers_exponentPart (style : NumberStyle) (negated : Bool) (significand : Nat)
    (scale : Int) {exponent : Int} (small : exponent.natAbs ≤ Numeral.exponentLimit)
    (stop : ∀ c ∈ rest.head?, c.isDigit = false) :
    (exponentPart negated significand scale).Answers (style.exponentPart exponent) rest
      ((Numeral.float negated significand (exponent + scale)).map .floating) := by
  have gathered : Numeral.absorb Numeral.exponentLimit 0 (Decimal.digitsOf exponent.natAbs)
      = (exponent.natAbs, []) := by
    rw [Numeral.absorb_eq (by rwa [ofDigitChars_digitsOf]), ofDigitChars_digitsOf]
  have sum : (if decide (exponent < 0) = true then scale - exponent.natAbs
      else scale + exponent.natAbs) = exponent + scale := by
    simp only [decide_eq_true_eq]
    omega
  rw [NumberStyle.exponentPart, List.append_assoc]
  refine (takes_skip 'e' _).bind ?_
  refine Takes.bind (takes_exponentSign style exponent rest) ?_
  refine Takes.bind_ahead (takes_peek _) ?_
  obtain ⟨c, digit, head⟩ := exists_head_digitsOf exponent.natAbs rest
  rw [head]
  dsimp only
  rw [if_pos digit]
  refine answers_get fun position => ?_
  dsimp only
  rw [takeWhile_append (allDigits_digitsOf _) stop, gathered, sum]
  exact (takes_skip_length _ rest).bind_last (answers_finish negated significand _ rest)

/-! ## Numbers -/

theorem answers_scaled (style : NumberStyle) (negated : Bool) (significand : Nat) (scale : Int)
    {exponent : Option Int} (small : ∀ e ∈ exponent, e.natAbs ≤ Numeral.exponentLimit)
    (stop : Stops rest) :
    (scaled negated significand scale).Answers (exponent.elim [] style.exponentPart) rest
      ((Numeral.float negated significand (exponent.getD 0 + scale)).map .floating) := by
  refine Takes.bind_ahead (takes_peek _) ?_
  cases exponent with
  | some exponent =>
    exact answers_exponentPart style negated significand scale (small _ rfl)
      fun c head => (stop c head).1
  | none =>
    have finished := answers_finish negated significand scale rest
    rw [Option.getD_none, Int.zero_add]
    cases rest with
    | nil => exact finished
    | cons c rest =>
      show Answers (if isExponentMark c then _ else _) _ _ _
      rw [if_neg (by simp [(stop c rfl).2.2])]
      exact finished

/-- What may stand behind the digits of a number in front of the exponent. -/
theorem isDigit_behind {style : NumberStyle} {exponent : Option Int} (stop : Stops rest) :
    ∀ c ∈ (exponent.elim [] style.exponentPart ++ rest).head?, c.isDigit = false := by
  cases exponent with
  | some exponent =>
    rintro c ⟨⟩
    decide
  | none => exact fun c head => (stop c head).1

section Figures

variable {figures : Figures} (sound : figures.Sound) (style : NumberStyle) (negated : Bool)

include sound

theorem answers_fractionPart (stop : Stops rest) (some : figures.fraction ≠ []) :
    (fractionPart negated (ofDigitChars 10 figures.whole 0) 0).Answers
      ('.' :: figures.fraction ++ figures.exponent.elim [] style.exponentPart) rest
      ((figures.value negated).map .floating) := by
  have scale : figures.scale = figures.exponent.getD 0
      + (((0 : Nat) : Int) - (figures.fraction.length - figures.gathered.2.length : Nat)) := by
    rw [Figures.scale]
    omega
  refine (takes_skip '.' _).bind ?_
  refine Takes.bind (takes_digits sound.fraction_digits (isDigit_behind stop)) ?_
  rw [if_neg (by simpa using some), Figures.value, scale]
  exact answers_scaled style negated _ _ sound.exponent_le stop

/-- The figures of a float read as what they stand for. -/
theorem answers_figures (stop : Stops rest) :
    (number negated).Answers (figures.text style) rest ((figures.value negated).map .floating) := by
  have gathered := Numeral.absorb_eq sound.whole_le
  rw [Figures.text]
  by_cases fraction : figures.fraction = []
  · -- without a fraction there is an exponent
    obtain ⟨exponent, given⟩ :=
      Option.isSome_iff_exists.mp (sound.float.resolve_left (not_not.mpr fraction))
    have value : figures.value negated
        = Numeral.float negated (ofDigitChars 10 figures.whole 0) (exponent + (0 : Nat)) := by
      rw [Figures.value, Figures.scale, Figures.gathered, fraction, given]
      rfl
    rw [fraction, given, value]
    show Answers _ (figures.whole ++ style.exponentPart exponent) _ _
    refine Takes.bind (takes_wholeDigits sound.whole_digits sound.whole_ne_nil sound.leading ?_) ?_
    · rintro c ⟨⟩
      decide
    rw [gathered]
    refine Takes.bind_ahead (takes_peek _) ?_
    exact answers_exponentPart style negated _ _ (sound.exponent_le exponent given)
      fun c head => (stop c head).1
  · rw [if_neg (by simpa using fraction)]
    refine Takes.bind (takes_wholeDigits sound.whole_digits sound.whole_ne_nil sound.leading ?_) ?_
    · rintro c ⟨⟩
      decide
    rw [gathered]
    refine Takes.bind_ahead (takes_peek _) ?_
    exact answers_fractionPart sound style negated stop fraction

end Figures

/-- A natural number of at most 64 bits reads as itself. -/
theorem takes_digitsOf {value : Nat} (small : value ≤ Numeral.significandLimit)
    (stop : Stops rest) :
    (number false).Takes (Decimal.digitsOf value) rest (.natural value) := by
  have gathered : Numeral.absorb Numeral.significandLimit 0 (Decimal.digitsOf value)
      = (value, []) := by
    rw [Numeral.absorb_eq (by rwa [ofDigitChars_digitsOf]), ofDigitChars_digitsOf]
  refine Takes.bind_last (takes_wholeDigits (allDigits_digitsOf value) Nat.toDigits_ne_nil
    (head_digitsOf value) fun c head => (stop c head).1) ?_
  rw [gathered]
  refine Takes.bind_ahead (takes_peek _) ?_
  cases rest with
  | nil => exact takes_pure _ []
  | cons c rest =>
    obtain ⟨-, noPoint, noMark⟩ := stop c rfl
    dsimp only [List.nil_append, List.head?_cons]
    split
    · rename_i point
      exact absurd (Option.some.inj point) noPoint
    · rw [if_neg (by simp [noMark])]
      exact takes_pure _ (c :: rest)

end Reader

end KMeansSeeding.Json
